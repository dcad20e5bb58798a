import ScalarWire.Proofs.Literal.Reading
import ScalarWire.Proofs.Literal.Time

/-!
# What a refused literal is refused for

A date or a time that cannot be read is refused as the type it was read for, either because it has
another form or because it is out of range. Only where a zone is expected can the refusal name a
zone instead.
-/

namespace ScalarWire

open Literal

section FailsOnly

variable {ε α β : Type} {P : ε → Prop}

/-- Every error of a computation has a property. -/
def FailsOnly (P : ε → Prop) (x : Except ε α) : Prop :=
  ∀ e, x = .error e → P e

theorem failsOnly_pure (a : α) : FailsOnly P (pure a : Except ε α) :=
  fun e h => absurd h (pure_ne_error a e)

theorem failsOnly_throw {e : ε} (h : P e) : FailsOnly P (throw e : Except ε α) := by
  intro e' heq
  cases heq
  exact h

theorem FailsOnly.bind {x : Except ε α} {f : α → Except ε β} (hx : FailsOnly P x)
    (hf : ∀ a, FailsOnly P (f a)) : FailsOnly P (x >>= f) := by
  intro e h
  rcases bind_eq_error_iff.mp h with hfirst | ⟨a, -, hnext⟩
  · exact hx e hfirst
  · exact hf a e hnext

theorem FailsOnly.map {x : Except ε α} (hx : FailsOnly P x) (f : α → β) :
    FailsOnly P (x.map f) := by
  cases x with
  | error e =>
      intro e' h
      cases h
      exact hx e rfl
  | ok a => exact failsOnly_pure (f a)

theorem failsOnly_elim_throw {found? : Option α} {e : ε} (h : P e) :
    FailsOnly P (found?.elim (throw e : Except ε α) pure) := by
  cases found? with
  | none => exact failsOnly_throw h
  | some a => exact failsOnly_pure a

end FailsOnly

/-- The type that an error names is this one. A zone can be the cause only with a type that has
zones. -/
def CodecError.IsAbout (type : WireType) : CodecError → Prop
  | .malformed named _ => named = type
  | .outOfRange named _ => named = type
  | .unknownZone _ => type = .timetz ∨ type = .timestamptz
  | .mismatch _ _ => False

/-- A failure that the caller sees as an error is about this type. -/
def Failure.IsAbout (type : WireType) : Failure → Prop
  | .rejected e => e.IsAbout type
  | .aborted => True

theorem FailsOnly.lift {α : Type} {type : WireType} {x : Except CodecError α}
    (hx : FailsOnly (·.IsAbout type) x) :
    FailsOnly (·.IsAbout type) (liftM x : Except Failure α) := by
  cases x with
  | error e =>
      intro e' h
      cases h
      exact hx e rfl
  | ok a => exact failsOnly_pure a

/-- A computation that only fails about a type is rejected about that type. -/
theorem FailsOnly.isAbout {α : Type} {type : WireType} {x : Except Failure α}
    (hx : FailsOnly (·.IsAbout type) x) {e : CodecError} (h : x = .error (.rejected e)) :
    e.IsAbout type :=
  hx (.rejected e) h

namespace Literal

/-! ### Dates -/

theorem failsOnly_complete (type : WireType) (s rest : List Char) (fields : Option DateFields) :
    FailsOnly (·.IsAbout type) (complete type s rest fields) := by
  unfold complete
  split
  · exact failsOnly_pure _
  · exact failsOnly_throw rfl

theorem failsOnly_readDate (type : WireType) (order : DateOrder) (s : List Char) :
    FailsOnly (·.IsAbout type) (readDate type order s) := by
  unfold readDate
  split
  · apply failsOnly_complete
  · split
    · apply failsOnly_complete
    · split
      · apply failsOnly_complete
      · exact failsOnly_throw rfl

theorem failsOnly_requireEnd (type : WireType) (input rest : List Char) :
    FailsOnly (·.IsAbout type) (requireEnd type input rest) := by
  unfold requireEnd
  split
  · exact failsOnly_pure _
  · exact failsOnly_throw rfl

theorem failsOnly_dayOf (type : WireType) (input : List Char) (bc : Bool) (fields : DateFields) :
    FailsOnly (·.IsAbout type) (dayOf type input bc fields) := by
  unfold dayOf
  split
  · exact failsOnly_pure _
  · exact failsOnly_throw rfl

/-! ### Times -/

section time

variable {P : Failure → Prop} {outOfRange : CodecError}

theorem failsOnly_readField (hrange : P (.rejected outOfRange)) (digits : List Char) :
    FailsOnly P (readField outOfRange digits) := by
  unfold readField
  split
  · exact failsOnly_pure _
  · exact failsOnly_throw hrange

theorem failsOnly_fractionMicros (hrange : P (.rejected outOfRange)) (haborted : P .aborted)
    (digits : List Char) : FailsOnly P (fractionMicros outOfRange digits) := by
  unfold fractionMicros
  split
  · exact failsOnly_throw haborted
  · split
    · exact failsOnly_throw hrange
    · exact failsOnly_pure _

theorem failsOnly_readOptional {read : List Char → Except Failure Nat}
    (h : ∀ digits, FailsOnly P (read digits)) (digits? : Option (List Char)) :
    FailsOnly P (readOptional read digits?) := by
  cases digits? with
  | none => exact failsOnly_pure 0
  | some digits => exact h digits

theorem failsOnly_totalMicros (hrange : P (.rejected outOfRange))
    (hour minute second fraction : Nat) (meridiem? : Option Meridiem) :
    FailsOnly P (totalMicros outOfRange hour minute second fraction meridiem?) := by
  unfold totalMicros
  split
  · exact failsOnly_throw hrange
  · dsimp only
    split
    · exact failsOnly_throw hrange
    · exact failsOnly_pure _

/-- Whichever field of a time is the cause, it is refused in the same words. -/
theorem failsOnly_micros (hrange : P (.rejected outOfRange)) (haborted : P .aborted)
    (t : TimeText) : FailsOnly P (t.micros outOfRange) := by
  have hfield := failsOnly_readField hrange
  rw [TimeText.micros_eq]
  refine (hfield t.hour).bind fun hour => ?_
  refine (hfield t.minute).bind fun minute => ?_
  refine (failsOnly_readOptional hfield t.second?).bind fun second => ?_
  refine (failsOnly_readOptional (failsOnly_fractionMicros hrange haborted) t.fraction?).bind ?_
  intro fraction
  exact failsOnly_totalMicros hrange hour minute second fraction t.meridiem?

end time

theorem failsOnly_readTime (type : WireType) (s : List Char) :
    FailsOnly (·.IsAbout type) (readTime type s) := by
  unfold readTime
  split
  · exact failsOnly_throw rfl
  · next t _ =>
      have hmicros : ∀ value,
          FailsOnly (Failure.IsAbout type) (t.micros (.outOfRange type value)) := by
        intro value
        apply failsOnly_micros
        · exact rfl
        · exact trivial
      exact (hmicros _).bind fun total => failsOnly_pure _

theorem failsOnly_readClock (type : WireType) (s : List Char) :
    FailsOnly (·.IsAbout type) (readClock type s) := by
  unfold readClock
  split
  · exact failsOnly_readTime type s
  · exact failsOnly_pure _

theorem failsOnly_readTimestamp (ctx : Context) (type : WireType) (input body : List Char)
    (bc : Bool) : FailsOnly (·.IsAbout type) (readTimestamp ctx type input body bc) := by
  rw [readTimestamp_eq]
  refine (failsOnly_readDate type ctx.dateOrder body).lift.bind fun (fields, behind) => ?_
  refine (failsOnly_dayOf type input bc fields).lift.bind fun date => ?_
  refine (failsOnly_readClock type (dropJoint behind)).bind fun (micros, rest) => ?_
  have hmoved : FailsOnly (·.IsAbout type) (moved type input date micros) :=
    failsOnly_elim_throw rfl
  exact hmoved.bind fun t => failsOnly_pure _

/-! ### Zones -/

theorem failsOnly_resolve (zones : ZoneTable) (regions : RegionDatabase) {type : WireType}
    (h : type = .timetz ∨ type = .timestamptz) (token : List Char) :
    FailsOnly (·.IsAbout type) (zones.resolve regions type token) := by
  unfold ZoneTable.resolve
  dsimp only
  split
  all_goals repeat' split
  all_goals first
    | exact failsOnly_pure _
    | exact failsOnly_throw rfl
    | exact failsOnly_throw h

theorem failsOnly_zoneOf (ctx : Context) {type : WireType}
    (h : type = .timetz ∨ type = .timestamptz) (token : List Char) :
    FailsOnly (·.IsAbout type) (zoneOf ctx type token) := by
  unfold zoneOf
  split
  · exact failsOnly_pure _
  · exact failsOnly_resolve ctx.zones ctx.regions h token

end Literal

/-! ### Whole texts -/

theorem Date.failsOnly_ofText (ctx : Context) (s : List Char) :
    FailsOnly (·.IsAbout .date) (ofText ctx s) := by
  unfold ofText
  split
  · exact failsOnly_pure _
  · exact failsOnly_pure _
  · refine (failsOnly_readDate .date ctx.dateOrder _).bind fun (fields, rest) => ?_
    refine (failsOnly_requireEnd .date s rest).bind fun _ => ?_
    exact failsOnly_dayOf .date s _ fields

theorem TimeOfDay.failsOnly_ofText (s : List Char) : FailsOnly (·.IsAbout .time) (ofText s) := by
  refine (failsOnly_readTime .time (Text.trim s)).bind fun (micros, rest) => ?_
  refine (failsOnly_requireEnd .time s rest).lift.bind fun _ => ?_
  exact failsOnly_pure _

theorem TimeOfDay.failsOnly_ofZonedText (ctx : Context) (s : List Char) :
    FailsOnly (·.IsAbout .timetz) (ofZonedText ctx s) := by
  refine (failsOnly_readTime .timetz (Text.trim s)).bind fun (micros, rest) => ?_
  refine (failsOnly_zoneOf ctx (Or.inl rfl) rest).lift.bind fun zone => ?_
  exact failsOnly_pure _

theorem Timestamp.failsOnly_ofText (ctx : Context) (s : List Char) :
    FailsOnly (·.IsAbout .timestamp) (ofText ctx s) := by
  unfold ofText
  split
  · exact failsOnly_pure _
  · exact failsOnly_pure _
  · refine (failsOnly_readTimestamp ctx .timestamp s _ _).bind fun (t, rest) => ?_
    refine (failsOnly_requireEnd .timestamp s rest).lift.bind fun _ => ?_
    exact failsOnly_pure t

theorem Timestamp.failsOnly_ofZonedText (ctx : Context) (s : List Char) :
    FailsOnly (·.IsAbout .timestamptz) (ofZonedText ctx s) := by
  cases hsign : infinity? s with
  | some sign =>
      rw [ofZonedText_of_infinity? hsign]
      exact failsOnly_pure _
  | none =>
      rw [ofZonedText_eq hsign]
      refine (failsOnly_readTimestamp ctx .timestamptz s _ _).bind fun (wall, rest) => ?_
      refine (failsOnly_zoneOf ctx (Or.inr rfl) rest).lift.bind fun zone => ?_
      exact failsOnly_elim_throw rfl

end ScalarWire
