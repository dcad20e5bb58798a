import ScalarWire.Registry
import ScalarWire.Proofs.Decimal.Limits
import ScalarWire.Proofs.Literal.Abort
import ScalarWire.Proofs.Text.Utf8
import ScalarWire.Zone.Excerpt

/-!
# Where decoding ends for good

Decoding gives a value or an error, except on texts with a torn fraction and on numbers without
bounds. A row has one result for each of its columns exactly if none of them holds such a text.
-/

namespace ScalarWire

open Literal

/-- The texts of a column type that can neither be read nor refused. -/
def TextAborts (ctx : Context) (type : WireType) (s : List Char) : Prop :=
  match type with
  | .numeric => Decimal.Boundless (Text.trim s)
  | .time | .timetz => TornFraction (Text.trim s)
  | .timestamp | .timestamptz =>
    infinity? s = none ∧ TornTimestamp type ctx.dateOrder (splitEra s).1 (splitEra s).2
  | _ => False

/-- The payloads of a column type that can neither be read nor refused. -/
def PayloadAborts (ctx : Context) (type : WireType) (p : Payload) : Prop :=
  p.format = .text ∧ ∃ s, Utf8.decode? p.bytes = some s ∧ TextAborts ctx type s

namespace Codec

theorem ofText_eq_aborted_iff {ctx : Context} {type : WireType} {s : List Char} :
    ofText type.kind type ctx s = .error .aborted ↔ TextAborts ctx type s := by
  have hlift : ∀ {α : Type} (x : Except CodecError α) (g : α → Value),
      (liftM x >>= fun a => pure (g a) : Except Failure Value) = .error .aborted ↔ False :=
    fun x g => bind_pure_eq_error_iff.trans (iff_false_intro (lift_ne_aborted x))
  cases type with
  | int2 | int4 | int8 => exact hlift _ _
  | float4 | float8 => exact hlift _ _
  | bool => exact hlift _ _
  | date => exact hlift _ _
  | char | varchar => exact iff_false_intro fun h => nomatch h
  | numeric => exact bind_pure_eq_error_iff.trans Decimal.ofText_eq_aborted_iff
  | time => exact bind_pure_eq_error_iff.trans TimeOfDay.ofText_eq_aborted_iff
  | timetz => exact bind_pure_eq_error_iff.trans TimeOfDay.ofZonedText_eq_aborted_iff
  | timestamp => exact bind_pure_eq_error_iff.trans Timestamp.ofText_eq_aborted_iff
  | timestamptz => exact bind_pure_eq_error_iff.trans Timestamp.ofZonedText_eq_aborted_iff

theorem decode_eq_aborted_iff {ctx : Context} {type : WireType} {p : Payload} :
    decode type ctx p = .error .aborted ↔ PayloadAborts ctx type p := by
  obtain ⟨format, bytes⟩ := p
  cases format with
  | binary =>
      refine ⟨fun h => ?_, fun h => (nomatch h.1)⟩
      exact absurd h (lift_ne_aborted _)
  | text =>
      cases hs : Utf8.decode? bytes with
      | none =>
          refine ⟨fun h => ?_, fun ⟨_, s, h, _⟩ => (by simp [hs] at h)⟩
          simp only [decode, Payload.chars, hs] at h
          cases h
      | some s =>
          have hchars : (liftM ((⟨.text, bytes⟩ : Payload).chars type) :
              Except Failure (List Char)) = .ok s := by
            rw [Payload.chars, hs]
            rfl
          have hdecode : decode type ctx ⟨.text, bytes⟩ = ofText type.kind type ctx s :=
            bind_eq_of_ok hchars
          rw [hdecode, ofText_eq_aborted_iff]
          refine ⟨fun h => ⟨rfl, s, hs, h⟩, ?_⟩
          rintro ⟨-, t, ht, h⟩
          rw [hs, Option.some.injEq] at ht
          exact ht ▸ h

end Codec

namespace Registry

variable (r : Registry)

theorem exists_decodeColumn_eq_ok_iff {type : WireType} {p? : Option Payload} :
    (∃ column, r.decodeColumn type p? = .ok column) ↔
      ∀ p ∈ p?, ¬PayloadAborts r.context type p := by
  cases p? with
  | none => exact ⟨fun _ p h => (nomatch h), fun _ => ⟨_, rfl⟩⟩
  | some p =>
      have hiff : Codec.decode type r.context p = .error .aborted ↔
          PayloadAborts r.context type p := Codec.decode_eq_aborted_iff
      simp only [Option.mem_some_iff, forall_eq', ← hiff, decodeColumn, decode]
      cases Codec.decode type r.context p with
      | ok v => exact ⟨fun _ h => (nomatch h), fun _ => ⟨_, rfl⟩⟩
      | error e =>
          cases e with
          | rejected e => exact ⟨fun _ h => (nomatch h), fun _ => ⟨_, rfl⟩⟩
          | aborted => exact ⟨fun ⟨_, h⟩ => (nomatch h), fun h => absurd rfl h⟩

/-- Decoding ends without a value and without an error exactly on the payloads described, and only
such a payload keeps a row from having one result for each of its columns. -/
theorem decode_eq_aborted_iff_and_decodeRow :
    (∀ type p, r.decode type p = .error .aborted ↔ PayloadAborts r.context type p) ∧
      ∀ columns, (∃ results, r.decodeRow columns = .ok results ∧
          results.length = columns.length) ↔
        ∀ type p, (type, some p) ∈ columns → ¬PayloadAborts r.context type p := by
  refine ⟨fun type p => Codec.decode_eq_aborted_iff, fun columns => ?_⟩
  refine exists_mapM_eq_ok_iff.trans ?_
  constructor
  · intro h type p hmem
    exact r.exists_decodeColumn_eq_ok_iff.mp (h (type, some p) hmem) p rfl
  · rintro h ⟨type, p?⟩ hmem
    refine r.exists_decodeColumn_eq_ok_iff.mpr fun p hp => ?_
    obtain rfl : p? = some p := hp
    exact h type p hmem

/-- A time whose second fractional digit takes the fifth to the eighth byte of its fraction, alone
and in a row behind a column that can be read. -/
theorem decodeRow_eq_aborted_of_torn :
    let r := standard .excerpt
    r.decode .time (.ofText "10:00:00.𝟎𝟏".toList) = .error .aborted ∧
      r.decodeRow [(.bool, some (.ofText "t".toList)),
        (.time, some (.ofText "10:00:00.𝟎𝟏".toList))] = .error .aborted := by
  intro r
  have htorn : TornFraction (Text.trim "10:00:00.𝟎𝟏".toList) := by
    refine ⟨['1', '0'], ['0', '0'], ['0', '0'], '.', ['𝟎'], '𝟏', [], by decide,
      ⟨by decide, by decide, List.all_eq_true.mp rfl⟩,
      ⟨by decide, by decide, List.all_eq_true.mp rfl⟩,
      ⟨by decide, by decide, List.all_eq_true.mp rfl⟩, Or.inl rfl,
      List.forall_mem_singleton.mpr (by decide), by decide, by decide, by decide⟩
  have hdecode : r.decode .time (.ofText "10:00:00.𝟎𝟏".toList) = .error .aborted :=
    Codec.decode_eq_aborted_iff.mpr ⟨rfl, _, Utf8.decode?_encode _, htorn⟩
  have hbool : r.decodeColumn .bool (some (.ofText "t".toList)) =
      .ok (.ok (some (.boolean true))) := by
    rfl
  have htime : r.decodeColumn .time (some (.ofText "10:00:00.𝟎𝟏".toList)) =
      .error .aborted := by
    simp only [decodeColumn, hdecode]
    rfl
  refine ⟨hdecode, ?_⟩
  rw [decodeRow, List.mapM_cons, bind_eq_of_ok hbool, List.mapM_cons]
  exact bind_eq_error_iff.mpr (Or.inl (bind_eq_error_iff.mpr (Or.inl htime)))

end Registry

end ScalarWire
