import ScalarWire.Proofs.Literal.Reading
import ScalarWire.Proofs.Literal.TornFraction

/-!
# Where reading dates and times ends for good

A torn fraction ends the reading of a time, with or without a zone, and of a timestamp once its
date has been read. Everything else is read or refused.
-/

namespace ScalarWire

open Literal

namespace Literal

theorem startsWithDigit_of_tornFraction {s : List Char} (h : TornFraction s) :
    startsWithDigit s = true := by
  obtain ⟨hour, minute, second, mark, kept, c, tail, rfl, ⟨hne, -, hdigits⟩, -⟩ := h
  obtain ⟨d, hour, rfl⟩ := List.exists_cons_of_ne_nil hne
  exact hdigits d List.mem_cons_self

theorem readClock_eq_aborted_iff {type : WireType} {s : List Char} :
    readClock type s = .error .aborted ↔ TornFraction s := by
  unfold readClock
  split_ifs with hdigit
  · exact readTime_eq_aborted_iff
  · refine iff_of_false (pure_ne_error _ _) fun h => ?_
    exact hdigit (startsWithDigit_of_tornFraction h)

theorem moved_ne_aborted {type : WireType} {input : List Char} {date : Date} {micros : Nat} :
    moved type input date micros ≠ .error .aborted :=
  elim_throw_ne_error (by simp)

/-- A date with a torn fraction behind it. -/
def TornTimestamp (type : WireType) (order : DateOrder) (body : List Char) (bc : Bool) : Prop :=
  ∃ fields rest date, readDate type order body = .ok (fields, rest) ∧
    fields.toDate? bc = some date ∧ TornFraction (dropJoint rest)

theorem readTimestamp_eq_aborted_iff {ctx : Context} {type : WireType} (input : List Char)
    {body : List Char} {bc : Bool} :
    readTimestamp ctx type input body bc = .error .aborted ↔
      TornTimestamp type ctx.dateOrder body bc := by
  have htime : ∀ date rest, (readClock type (dropJoint rest) >>= fun clock =>
      moved type input date clock.1 >>= fun t => pure (t, clock.2)) = .error .aborted ↔
        TornFraction (dropJoint rest) := by
    intro date rest
    rw [bind_eq_error_iff_of_ne, readClock_eq_aborted_iff]
    intro _ h
    exact moved_ne_aborted (bind_pure_eq_error_iff.mp h)
  simp only [readTimestamp_eq, lift_bind_eq_aborted_iff, dayOf_eq_ok_iff, htime, Prod.exists,
    TornTimestamp, exists_and_left]

end Literal

namespace TimeOfDay

theorem ofText_eq_aborted_iff {s : List Char} :
    ofText s = .error .aborted ↔ TornFraction (Text.trim s) := by
  rw [ofText, bind_eq_error_iff_of_ne, readTime_eq_aborted_iff]
  exact fun _ => lift_bind_ne_aborted fun _ => pure_ne_error _ _

theorem ofZonedText_eq_aborted_iff {ctx : Context} {s : List Char} :
    ofZonedText ctx s = .error .aborted ↔ TornFraction (Text.trim s) := by
  rw [ofZonedText, bind_eq_error_iff_of_ne, readTime_eq_aborted_iff]
  exact fun _ => lift_bind_ne_aborted fun _ => pure_ne_error _ _

end TimeOfDay

namespace Timestamp

theorem ofText_eq_aborted_iff {ctx : Context} {s : List Char} :
    ofText ctx s = .error .aborted ↔ infinity? s = none ∧
      TornTimestamp .timestamp ctx.dateOrder (splitEra s).1 (splitEra s).2 := by
  cases h : infinity? s with
  | some sign => simp [ofText_of_infinity? h]
  | none =>
      simp only [ofText, h, ← readTimestamp_eq_aborted_iff s, true_and]
      exact bind_eq_error_iff_of_ne fun _ => lift_bind_ne_aborted fun _ => pure_ne_error _ _

theorem instantOf_ne_aborted {zone : Zone} {wall : Timestamp} {input : List Char} :
    instantOf zone wall input ≠ .error .aborted :=
  elim_throw_ne_error (by simp)

theorem ofZonedText_eq_aborted_iff {ctx : Context} {s : List Char} :
    ofZonedText ctx s = .error .aborted ↔ infinity? s = none ∧
      TornTimestamp .timestamptz ctx.dateOrder (splitEra s).1 (splitEra s).2 := by
  cases h : infinity? s with
  | some sign => simp [ofZonedText_of_infinity? h]
  | none =>
      simp only [ofZonedText_eq h, ← readTimestamp_eq_aborted_iff s, true_and]
      exact bind_eq_error_iff_of_ne fun _ => lift_bind_ne_aborted fun _ => instantOf_ne_aborted

end Timestamp

end ScalarWire
