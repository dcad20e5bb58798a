import ScalarWire.Codec
import ScalarWire.Proofs.Literal.Temporal
import ScalarWire.Proofs.Text.Utf8
import ScalarWire.Zone.Excerpt

/-!
# Text round trip of dates and times

A date or time that text can hold exactly is written as a payload that is read, under any context,
as the same value.
-/

namespace ScalarWire

/-- A date or time that text can hold: whole microseconds and no leap second, or an infinity. -/
def Value.IsWhole : Value → Prop
  | .date _ => True
  | .time t | .timeTz t => t.IsWhole
  | .timestamp t | .timestampTz t => t.IsWhole
  | _ => False

namespace Codec

theorem decode_ofText (type : WireType) (ctx : Context) (s : List Char) :
    decode type ctx (.ofText s) = ofText type.kind type ctx s := by
  have hchars : ((Payload.ofText s).chars type : Except Failure (List Char)) = .ok s := by
    rw [Payload.chars, Payload.ofText, Utf8.decode?_encode]
    rfl
  exact bind_eq_of_ok hchars

theorem encode_text_of_toText {type : WireType} {v : Value} {s : List Char}
    (hv : v.belongsTo type) (h : toText type.kind type v = .ok s) :
    encode type v .text = .ok (.ofText s) := by
  rw [encode, if_pos hv]
  exact bind_eq_of_ok h

theorem exists_ofText_toText (type : WireType) {v : Value} (h : v.IsWhole) :
    ∃ s, toText v.kind type v = .ok s ∧ ∀ ctx, ofText v.kind type ctx s = .ok v := by
  cases v with
  | date d =>
      refine ⟨d.iso, rfl, fun ctx => ?_⟩
      have hread : (Date.ofText ctx d.iso : Except Failure Date) = .ok d := by
        rw [Date.ofText_iso]
        rfl
      exact bind_eq_of_ok hread
  | time t => exact ⟨t.iso, rfl, fun _ => bind_eq_of_ok (TimeOfDay.ofText_iso h)⟩
  | timeTz t => exact ⟨t.isoUtc, rfl, fun ctx => bind_eq_of_ok (TimeOfDay.ofZonedText_isoUtc ctx h)⟩
  | timestamp t => exact ⟨t.iso, rfl, fun ctx => bind_eq_of_ok (Timestamp.ofText_iso ctx h)⟩
  | timestampTz t =>
      exact ⟨t.isoUtc, rfl, fun ctx => bind_eq_of_ok (Timestamp.ofZonedText_isoUtc ctx h)⟩
  | integer | numeric | float | boolean | text => exact h.elim

/-- Whatever is written for such a date or time is read as the same value, under any context. -/
theorem decode_encode_temporal (ctx : Context) {type : WireType} {v : Value}
    (hv : v.belongsTo type) (h : v.IsWhole) :
    ∃ p, encode type v .text = .ok p ∧ decode type ctx p = .ok v := by
  have hkind : v.kind = type.kind := by simpa [Value.belongsTo] using hv
  obtain ⟨s, hs, hread⟩ := exists_ofText_toText type h
  rw [hkind] at hs hread
  exact ⟨.ofText s, encode_text_of_toText hv hs, (decode_ofText type ctx s).trans (hread ctx)⟩

/-- The last second but a fraction of the year 262143 BC, without any known zone. -/
theorem decode_encode_temporal_bc :
    let v := Value.timestampTz
      ⟨⟨-262142, 12, 31, by decide⟩, ⟨86399, 120000, by decide, by decide⟩⟩
    let ctx : Context := ⟨.dmy, .empty "none", .excerpt, .fixed ⟨3600, by decide⟩⟩
    v.belongsTo .timestamptz ∧ v.IsWhole ∧
      ∃ p, encode .timestamptz v .text = .ok p ∧ decode .timestamptz ctx p = .ok v := by
  intro v ctx
  have hwhole : v.IsWhole := Or.inr (Or.inr (by decide))
  exact ⟨rfl, hwhole, decode_encode_temporal ctx rfl hwhole⟩

end Codec

end ScalarWire
