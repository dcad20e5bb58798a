import Mathlib.Tactic.SplitIfs
import ScalarWire.Literal.Temporal
import ScalarWire.Proofs.Error

/-!
# The steps of reading a date or a time

A literal is read in steps that may each refuse it. It is accepted exactly if every step accepts
what the one before has left, and then its value is what the steps give.
-/

namespace ScalarWire

open Literal

namespace Literal

theorem requireEnd_eq_ok_iff {type : WireType} {input rest : List Char} {u : Unit} :
    requireEnd type input rest = .ok u ↔ Text.isBlankText rest := by
  unfold requireEnd
  split_ifs with h
  · exact ⟨fun _ => h, fun _ => rfl⟩
  · exact ⟨fun h' => (nomatch h'), fun h' => absurd h' h⟩

theorem dayOf_eq_ok_iff {type : WireType} {input : List Char} {bc : Bool} {fields : DateFields}
    {date : Date} : dayOf type input bc fields = .ok date ↔ fields.toDate? bc = some date := by
  unfold dayOf
  cases fields.toDate? bc with
  | none => exact ⟨fun h => (nomatch h), fun h => (nomatch h)⟩
  | some d => exact ⟨fun h => congrArg some (Except.ok.inj h), fun h => h ▸ rfl⟩

/-- The time behind a date, in microseconds since midnight. Where no digit stands there is none. -/
def readClock (type : WireType) (s : List Char) : Except Failure (Nat × List Char) :=
  if startsWithDigit s then readTime type s else pure (0, s)

/-- A day moved on by the time behind it, unless that leaves the calendar. -/
def moved (type : WireType) (input : List Char) (date : Date) (micros : Nat) :
    Except Failure Timestamp :=
  ((⟨date, .midnight⟩ : Timestamp).addMicros? micros).elim
    (throw (.rejected (.outOfRange type (String.ofList input)))) pure

theorem moved_eq_ok_iff {type : WireType} {input : List Char} {date : Date} {micros : Nat}
    {t : Timestamp} : moved type input date micros = .ok t ↔
      (⟨date, .midnight⟩ : Timestamp).addMicros? micros = some t :=
  elim_throw_eq_ok_iff

section readTimestamp

variable {ctx : Context} {type : WireType} {input body rest : List Char} {bc : Bool}
  {t : Timestamp}

/-- Date, day, time and the way from the one to the other come one after the other. -/
theorem readTimestamp_eq :
    readTimestamp ctx type input body bc =
      ((liftM (readDate type ctx.dateOrder body) : Except Failure _) >>= fun (fields, behind) =>
        (liftM (dayOf type input bc fields) : Except Failure _) >>= fun date =>
          readClock type (dropJoint behind) >>= fun (micros, rest) =>
            moved type input date micros >>= fun t => pure (t, rest)) := by
  refine bind_congr fun (fields, behind) => bind_congr fun date => ?_
  have hclock : readClock type (dropJoint behind) =
      if startsWithDigit (dropJoint behind) then readTime type (dropJoint behind)
      else pure (0, dropJoint behind) := rfl
  rw [hclock]
  by_cases hdigit : startsWithDigit (dropJoint behind)
  all_goals
    simp only [hdigit]
    refine bind_congr fun (micros, rest) => ?_
    unfold moved
    cases (⟨date, .midnight⟩ : Timestamp).addMicros? micros <;> rfl

theorem readTimestamp_eq_ok_iff :
    readTimestamp ctx type input body bc = .ok (t, rest) ↔
      ∃ fields behind date micros, readDate type ctx.dateOrder body = .ok (fields, behind) ∧
        fields.toDate? bc = some date ∧ readClock type (dropJoint behind) = .ok (micros, rest) ∧
          (⟨date, .midnight⟩ : Timestamp).addMicros? micros = some t := by
  rw [readTimestamp_eq]
  simp only [bind_eq_ok_iff, pure_eq_ok_iff, lift_eq_ok_iff, dayOf_eq_ok_iff,
    moved_eq_ok_iff, Prod.exists]
  constructor
  · rintro ⟨fields, behind, hdate, date, hday, micros, left, hclock, u, hmove, hu⟩
    obtain ⟨rfl, rfl⟩ := Prod.mk.inj hu
    exact ⟨fields, behind, date, micros, hdate, hday, hclock, hmove⟩
  · rintro ⟨fields, behind, date, micros, hdate, hday, hclock, hmove⟩
    exact ⟨fields, behind, hdate, date, hday, micros, rest, hclock, t, hmove, rfl⟩

end readTimestamp

end Literal

/-- A date that is no infinity is read in fields up to its end. -/
theorem Date.ofText_eq_ok_iff {ctx : Context} {s : List Char} {date : Date}
    (h : infinity? s = none) :
    ofText ctx s = .ok date ↔ ∃ fields rest,
      readDate .date ctx.dateOrder (splitEra s).1 = .ok (fields, rest) ∧
        Text.isBlankText rest ∧ fields.toDate? (splitEra s).2 = some date := by
  simp only [ofText, h, bind_eq_ok_iff, requireEnd_eq_ok_iff, dayOf_eq_ok_iff, Prod.exists]
  constructor
  · rintro ⟨fields, rest, hread, _, hend, hday⟩
    exact ⟨fields, rest, hread, hend, hday⟩
  · rintro ⟨fields, rest, hread, hend, hday⟩
    exact ⟨fields, rest, hread, (), hend, hday⟩

namespace TimeOfDay

variable {s : List Char} {t : TimeOfDay}

theorem ofText_eq_ok_iff :
    ofText s = .ok t ↔ ∃ micros rest, readTime .time (Text.trim s) = .ok (micros, rest) ∧
      Text.isBlankText rest ∧ wrapMicros micros = t := by
  rw [ofText]
  simp only [bind_eq_ok_iff, pure_eq_ok_iff, lift_eq_ok_iff, requireEnd_eq_ok_iff, Prod.exists]
  constructor
  · rintro ⟨micros, rest, hread, _, hend, h⟩
    exact ⟨micros, rest, hread, hend, h⟩
  · rintro ⟨micros, rest, hread, hend, h⟩
    exact ⟨micros, rest, hread, (), hend, h⟩

theorem ofZonedText_eq_ok_iff {ctx : Context} :
    ofZonedText ctx s = .ok t ↔ ∃ micros rest zone,
      readTime .timetz (Text.trim s) = .ok (micros, rest) ∧ zoneOf ctx .timetz rest = .ok zone ∧
        wrapMicros (micros - zone.standardOffset.east * 1000000) = t := by
  rw [ofZonedText]
  simp only [bind_eq_ok_iff, pure_eq_ok_iff, lift_eq_ok_iff, Prod.exists]
  constructor
  · rintro ⟨micros, rest, hread, zone, hzone, h⟩
    exact ⟨micros, rest, zone, hread, hzone, h⟩
  · rintro ⟨micros, rest, zone, hread, hzone, h⟩
    exact ⟨micros, rest, hread, zone, hzone, h⟩

end TimeOfDay

/-- The end of the calendar that an infinity stands for. -/
def Literal.Infinity.timestamp : Infinity → Timestamp
  | before => .first
  | after => .last

namespace Timestamp

variable {ctx : Context} {s : List Char} {t : Timestamp}

/-- A literal that is no infinity is read in fields, and then it has to end. -/
theorem ofText_eq (h : infinity? s = none) :
    ofText ctx s =
      (readTimestamp ctx .timestamp s (splitEra s).1 (splitEra s).2 >>= fun (t, rest) =>
        (liftM (requireEnd .timestamp s rest) : Except Failure Unit) >>= fun _ => pure t) := by
  simp only [ofText, h]

theorem ofText_eq_ok_iff (h : infinity? s = none) :
    ofText ctx s = .ok t ↔ ∃ rest,
      readTimestamp ctx .timestamp s (splitEra s).1 (splitEra s).2 = .ok (t, rest) ∧
        Text.isBlankText rest := by
  simp only [ofText_eq h, bind_eq_ok_iff, pure_eq_ok_iff, lift_eq_ok_iff,
    requireEnd_eq_ok_iff, Prod.exists]
  constructor
  · rintro ⟨_, rest, hread, _, hend, rfl⟩
    exact ⟨rest, hread, hend⟩
  · rintro ⟨rest, hread, hend⟩
    exact ⟨t, rest, hread, (), hend, rfl⟩

/-- The instant at which the clocks of a zone show a time, unless it lies outside the calendar. -/
def instantOf (zone : Zone) (wall : Timestamp) (input : List Char) : Except Failure Timestamp :=
  (wall.addSeconds? (-(zone.offsetAt wall).east)).elim
    (throw (.rejected (.outOfRange .timestamptz (String.ofList input)))) pure

theorem instantOf_eq_ok_iff {zone : Zone} {wall : Timestamp} {input : List Char} :
    instantOf zone wall input = .ok t ↔ wall.addSeconds? (-(zone.offsetAt wall).east) = some t :=
  elim_throw_eq_ok_iff

/-- A zoned literal that is no infinity is a time on a clock, then the zone of that clock. -/
theorem ofZonedText_eq (h : infinity? s = none) :
    ofZonedText ctx s =
      (readTimestamp ctx .timestamptz s (splitEra s).1 (splitEra s).2 >>= fun (wall, rest) =>
        (liftM (zoneOf ctx .timestamptz rest) : Except Failure Zone) >>= fun zone =>
          instantOf zone wall s) := by
  simp only [ofZonedText, h]
  refine bind_congr fun (wall, rest) => bind_congr fun zone => ?_
  unfold instantOf
  cases wall.addSeconds? (-(zone.offsetAt wall).east) <;> rfl

theorem ofZonedText_eq_ok_iff (h : infinity? s = none) :
    ofZonedText ctx s = .ok t ↔ ∃ wall rest zone,
      readTimestamp ctx .timestamptz s (splitEra s).1 (splitEra s).2 = .ok (wall, rest) ∧
        zoneOf ctx .timestamptz rest = .ok zone ∧
          wall.addSeconds? (-(zone.offsetAt wall).east) = some t := by
  simp only [ofZonedText_eq h, bind_eq_ok_iff, lift_eq_ok_iff, instantOf_eq_ok_iff, Prod.exists]
  constructor
  · rintro ⟨wall, rest, hread, zone, hzone, hmove⟩
    exact ⟨wall, rest, zone, hread, hzone, hmove⟩
  · rintro ⟨wall, rest, zone, hread, hzone, hmove⟩
    exact ⟨wall, rest, hread, zone, hzone, hmove⟩

theorem ofText_of_infinity? {sign : Infinity} (h : infinity? s = some sign) :
    ofText ctx s = .ok sign.timestamp := by
  simp only [ofText, h]
  cases sign with
  | before => rfl
  | after => rfl

theorem ofZonedText_of_infinity? {sign : Infinity} (h : infinity? s = some sign) :
    ofZonedText ctx s = .ok sign.timestamp := by
  simp only [ofZonedText, h]
  cases sign with
  | before => rfl
  | after => rfl

end Timestamp

end ScalarWire
