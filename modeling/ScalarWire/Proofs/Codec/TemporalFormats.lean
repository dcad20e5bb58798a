import ScalarWire.Proofs.Codec.TemporalBinary
import ScalarWire.Zone.Excerpt

/-!
# Timestamps in both formats

Text and binary hold the same microseconds, but not every timestamp has whole ones. Text leaves out
what is finer and so goes back toward midnight; the count goes toward the start of 2000, and takes
a leap second for the start of the next second.
-/

namespace ScalarWire.Codec

/-- What a value is read as once it has been written in a format. -/
def reread (type : WireType) (ctx : Context) (format : Format) (v : Value) :
    Except Failure Value := do
  decode type ctx (← encode type v format)

section Reread

variable {type : WireType} {v : Value} (ctx : Context)

theorem reread_text {s : List Char} (hv : v.belongsTo type)
    (h : toText type.kind type v = .ok s) :
    reread type ctx .text v = ofText type.kind type ctx s := by
  have hwrite : (encode type v .text : Except Failure Payload) = .ok (.ofText s) :=
    lift_eq_ok_iff.mpr (encode_text_of_toText hv h)
  exact (bind_eq_of_ok hwrite).trans (decode_ofText type ctx s)

theorem reread_binary_eq_ok_iff {bytes : List UInt8} {w : Value} (hv : v.belongsTo type)
    (h : toBytes type.kind type v = .ok bytes) :
    reread type ctx .binary v = .ok w ↔ ofBytes type.kind type bytes = .ok w := by
  have hwrite : (encode type v .binary : Except Failure Payload) = .ok (.ofBytes bytes) :=
    lift_eq_ok_iff.mpr (encode_binary_of_toBytes hv h)
  rw [reread, bind_eq_of_ok hwrite]
  exact lift_eq_ok_iff

end Reread

section Timestamp

variable {type : WireType}

theorem timestampValue_injective (type : WireType) :
    Function.Injective (timestampValue type) := by
  intro t u h
  unfold timestampValue at h
  split_ifs at h
  · exact Value.timestampTz.inj h
  · exact Value.timestamp.inj h

theorem reread_text_timestampValue (ctx : Context) (t : Timestamp)
    (htype : type = .timestamp ∨ type = .timestamptz) :
    reread type ctx .text (timestampValue type t) = .ok (timestampValue type t.cut) := by
  rcases htype with rfl | rfl
  · exact (reread_text ctx rfl rfl).trans (bind_eq_of_ok (t.ofText_iso_cut ctx))
  · exact (reread_text ctx rfl rfl).trans (bind_eq_of_ok (t.ofZonedText_isoUtc_cut ctx))

theorem reread_binary_timestampValue_eq_ok_iff (ctx : Context) (t u : Timestamp)
    (htype : type = .timestamp ∨ type = .timestamptz) :
    reread type ctx .binary (timestampValue type t) = .ok (timestampValue type u) ↔
      Timestamp.ofCount? t.count = some u := by
  have hread : ofBytes type.kind type t.toBytes =
      (do return timestampValue type (← inRange type t.count (Timestamp.ofCount? t.count))) := by
    rcases htype with rfl | rfl <;> rw [← Timestamp.ofBytes_toBytes_eq] <;> rfl
  have hwrite : (timestampValue type t).belongsTo type ∧
      toBytes type.kind type (timestampValue type t) = .ok t.toBytes := by
    rcases htype with rfl | rfl <;> exact ⟨rfl, rfl⟩
  rw [reread_binary_eq_ok_iff ctx hwrite.1 hwrite.2, hread]
  cases Timestamp.ofCount? t.count with
  | none => exact ⟨fun h => (nomatch h), fun h => (nomatch h)⟩
  | some found =>
      refine ⟨fun h => congrArg some (timestampValue_injective type (Except.ok.inj h)), fun h => ?_⟩
      rw [Option.some.inj h]
      rfl

/-- A timestamp always comes back from its text, without what is finer than a microsecond. It comes
back from binary as the same value exactly if there was nothing finer, or if it lies on or after the
start of 2000 and in no leap second. -/
theorem reread_binary_eq_reread_text_iff (ctx : Context) (t : Timestamp)
    (htype : type = .timestamp ∨ type = .timestamptz) :
    reread type ctx .text (timestampValue type t) = .ok (timestampValue type t.cut) ∧
      (reread type ctx .binary (timestampValue type t) =
          reread type ctx .text (timestampValue type t) ↔
        t.IsWhole ∨ t.time.nanos < 1000000000 ∧ 2000 ≤ t.date.year) := by
  have htext := reread_text_timestampValue ctx t htype
  refine ⟨htext, ?_⟩
  rw [htext, reread_binary_timestampValue_eq_ok_iff ctx t t.cut htype,
    t.ofCount?_count_eq_cut_iff]

end Timestamp

/-- The last nanosecond before a leap second. -/
theorem reread_binary_eq_reread_text_2016 :
    let ctx : Context := .standard .excerpt
    let t : Timestamp := ⟨⟨2016, 12, 31, by decide⟩, ⟨86399, 999999999, by decide, by decide⟩⟩
    (WireType.timestamptz = .timestamp ∨ WireType.timestamptz = .timestamptz) ∧
      reread .timestamptz ctx .text (.timestampTz t) = .ok (.timestampTz t.cut) ∧
      reread .timestamptz ctx .binary (.timestampTz t) =
        reread .timestamptz ctx .text (.timestampTz t) := by
  intro ctx t
  have h := reread_binary_eq_reread_text_iff ctx t (Or.inr (rfl : WireType.timestamptz = _))
  exact ⟨Or.inr rfl, h.1, h.2.mpr (Or.inr (by decide))⟩

/-- Half a microsecond before 2000 is in 1999 as text and at the start of 2000 in binary. Half a
leap second before 2017 is in 2016 as text and in 2017 in binary. -/
theorem reread_formats_differ :
    let ctx : Context := .standard .excerpt
    let early : Timestamp :=
      ⟨⟨1999, 12, 31, by decide⟩, ⟨86399, 999999500, by decide, by decide⟩⟩
    let leap : Timestamp :=
      ⟨⟨2016, 12, 31, by decide⟩, ⟨86399, 1500000000, by decide, by decide⟩⟩
    (reread .timestamp ctx .text (.timestamp early) =
        .ok (.timestamp ⟨early.date, ⟨86399, 999999000, by decide, by decide⟩⟩) ∧
      reread .timestamp ctx .binary (.timestamp early) =
        .ok (.timestamp ⟨⟨2000, 1, 1, by decide⟩, .midnight⟩) ∧
      reread .timestamp ctx .binary (.timestamp early) ≠
        reread .timestamp ctx .text (.timestamp early)) ∧
      reread .timestamptz ctx .text (.timestampTz leap) =
        .ok (.timestampTz ⟨leap.date, ⟨86399, 999999000, by decide, by decide⟩⟩) ∧
      reread .timestamptz ctx .binary (.timestampTz leap) =
        .ok (.timestampTz ⟨⟨2017, 1, 1, by decide⟩, ⟨0, 500000000, by decide, by decide⟩⟩) ∧
      reread .timestamptz ctx .binary (.timestampTz leap) ≠
        reread .timestamptz ctx .text (.timestampTz leap) := by
  refine ⟨⟨rfl, rfl, fun h => ?_⟩, rfl, rfl, fun h => ?_⟩
  · exact absurd (Value.timestamp.inj (Except.ok.inj h)) (by decide)
  · exact absurd (Value.timestampTz.inj (Except.ok.inj h)) (by decide)

end ScalarWire.Codec
