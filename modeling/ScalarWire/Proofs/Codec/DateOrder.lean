import ScalarWire.Proofs.Codec.Temporal
import ScalarWire.Proofs.Literal.DateOrder
import ScalarWire.Proofs.Literal.Reading
import ScalarWire.Registry
import ScalarWire.Zone.Excerpt

/-!
# Registries that differ in the order of dates

Two texts that begin with dates of the same fields, and go on in the same way, are read alike: as
the same value, or with errors that differ in the text they quote at most. So whatever follows a
date, its order changes no more than which of the numbers are the day, the month and the year.
-/

namespace ScalarWire

open Literal Text

/-- The error without the text that it quotes. -/
def CodecError.bare : CodecError → CodecError
  | .malformed type _ => .malformed type ""
  | .outOfRange type _ => .outOfRange type ""
  | e => e

def Failure.bare : Failure → Failure
  | .rejected e => .rejected e.bare
  | .aborted => .aborted

/-- Two outcomes with the same value, or with errors that differ at most in the text that they
quote. -/
def Alike {α : Type} (x y : Except Failure α) : Prop :=
  x.mapError Failure.bare = y.mapError Failure.bare

section Alike

variable {α β : Type}

theorem Alike.refl (x : Except Failure α) : Alike x x :=
  rfl

theorem Alike.eq_ok_iff {x y : Except Failure α} (h : Alike x y) {a : α} :
    x = .ok a ↔ y = .ok a := by
  cases x with
  | error e =>
      cases y with
      | error e' => exact ⟨nofun, nofun⟩
      | ok b => cases h
  | ok b =>
      cases y with
      | error e => cases h
      | ok b' => rw [Except.ok.inj h]

/-- Steps that are alike, one after the other. -/
theorem Alike.bind {x y : Except Failure α} {f g : α → Except Failure β} (h : Alike x y)
    (hnext : ∀ a, Alike (f a) (g a)) : Alike (x >>= f) (y >>= g) := by
  cases x with
  | error e =>
      cases y with
      | error e' => exact congrArg Except.error (Except.error.inj h)
      | ok b => cases h
  | ok a =>
      cases y with
      | error e => cases h
      | ok b =>
          obtain rfl := Except.ok.inj h
          exact hnext a

theorem alike_error {e e' : CodecError} (h : e.bare = e'.bare) :
    Alike (.error (.rejected e) : Except Failure α) (.error (.rejected e')) :=
  congrArg (fun e => Except.error (Failure.rejected e)) h

end Alike

/-! ### Steps that quote their text only in errors -/

namespace Literal

variable {type : WireType}

theorem alike_readDate {order order' : DateOrder} {s s' : List Char}
    (h : spelling? order s = spelling? order' s') :
    Alike (liftM (readDate type order s)) (liftM (readDate type order' s')) := by
  rw [readDate_eq, readDate_eq, h]
  cases spelling? order' s' with
  | none => exact alike_error rfl
  | some found =>
      obtain ⟨rest, _ | fields⟩ := found
      · exact alike_error rfl
      · exact .refl _

theorem alike_dayOf (input input' : List Char) (bc : Bool) (fields : DateFields) :
    Alike (liftM (dayOf type input bc fields)) (liftM (dayOf type input' bc fields)) := by
  unfold dayOf
  cases fields.toDate? bc with
  | none => exact alike_error rfl
  | some date => exact .refl _

theorem alike_requireEnd (input input' rest : List Char) :
    Alike (liftM (requireEnd type input rest)) (liftM (requireEnd type input' rest)) := by
  unfold requireEnd
  split_ifs
  · exact .refl _
  · exact alike_error rfl

theorem alike_elim_throw {α : Type} (found? : Option α) {e e' : CodecError} (h : e.bare = e'.bare) :
    Alike (found?.elim (throw (.rejected e)) pure) (found?.elim (throw (.rejected e')) pure) := by
  cases found? with
  | none => exact alike_error h
  | some a => exact .refl _

theorem alike_moved (input input' : List Char) (date : Date) (micros : Nat) :
    Alike (moved type input date micros) (moved type input' date micros) :=
  alike_elim_throw _ rfl

end Literal

/-- The context with another order of dates. -/
def Context.withOrder (ctx : Context) (order : DateOrder) : Context :=
  { ctx with dateOrder := order }

section Reading

variable {type : WireType} {order order' : DateOrder} {s s' body body' : List Char} {bc : Bool}

theorem Literal.alike_readTimestamp (h : spelling? order body = spelling? order' body')
    (ctx : Context) (input input' : List Char) :
    Alike (readTimestamp (ctx.withOrder order) type input body bc)
      (readTimestamp (ctx.withOrder order') type input' body' bc) := by
  rw [readTimestamp_eq, readTimestamp_eq]
  refine (alike_readDate h).bind fun (fields, behind) => ?_
  refine (alike_dayOf input input' bc fields).bind fun date => ?_
  refine (Alike.refl _).bind fun (micros, rest) => ?_
  exact (alike_moved input input' date micros).bind fun t => .refl _

/-- The date that is no infinity, step by step. -/
theorem Date.lift_ofText_eq {ctx : Context} (h : infinity? s = none) :
    (liftM (Date.ofText ctx s) : Except Failure Date) =
      ((liftM (readDate .date ctx.dateOrder (splitEra s).1) : Except Failure _) >>=
        fun (fields, rest) =>
          (liftM (requireEnd .date s rest) : Except Failure Unit) >>= fun _ =>
            (liftM (dayOf .date s (splitEra s).2 fields) : Except Failure Date)) := by
  simp only [Date.ofText, h, lift_bind]

variable (hinf : infinity? s = none) (hinf' : infinity? s' = none) (hera : splitEra s = (body, bc))
  (hera' : splitEra s' = (body', bc)) (h : spelling? order body = spelling? order' body')
  (ctx : Context)

include hinf hinf' hera hera' h

theorem Date.alike_ofText :
    Alike (liftM (Date.ofText (ctx.withOrder order) s))
      (liftM (Date.ofText (ctx.withOrder order') s')) := by
  rw [Date.lift_ofText_eq hinf, Date.lift_ofText_eq hinf', hera, hera']
  refine (alike_readDate h).bind fun (fields, rest) => ?_
  exact (alike_requireEnd s s' rest).bind fun _ => alike_dayOf s s' bc fields

theorem Timestamp.alike_ofText :
    Alike (ofText (ctx.withOrder order) s) (ofText (ctx.withOrder order') s') := by
  rw [ofText_eq hinf, ofText_eq hinf', hera, hera']
  refine (alike_readTimestamp h ctx s s').bind fun (t, rest) => ?_
  exact (alike_requireEnd s s' rest).bind fun _ => .refl _

theorem Timestamp.alike_ofZonedText :
    Alike (ofZonedText (ctx.withOrder order) s) (ofZonedText (ctx.withOrder order') s') := by
  rw [ofZonedText_eq hinf, ofZonedText_eq hinf', hera, hera']
  refine (alike_readTimestamp h ctx s s').bind fun (wall, rest) => ?_
  exact (Alike.refl (liftM (zoneOf ctx .timestamptz rest))).bind fun zone => alike_elim_throw _ rfl

/-- The types that have dates in them. -/
theorem Codec.alike_ofText (htype : type = .date ∨ type = .timestamp ∨ type = .timestamptz) :
    Alike (ofText type.kind type (ctx.withOrder order) s)
      (ofText type.kind type (ctx.withOrder order') s') := by
  rcases htype with rfl | rfl | rfl
  · exact (Date.alike_ofText hinf hinf' hera hera' h ctx).bind fun d => .refl _
  · exact (Timestamp.alike_ofText hinf hinf' hera hera' h ctx).bind fun t => .refl _
  · exact (Timestamp.alike_ofZonedText hinf hinf' hera hera' h ctx).bind fun t => .refl _

end Reading

section Order

variable {order order' : DateOrder} {s : List Char} (ctx : Context)
  (h : spelling? order (splitEra s).1 = spelling? order' (splitEra s).1)

include h

theorem Date.ofText_withOrder_eq :
    Date.ofText (ctx.withOrder order) s = Date.ofText (ctx.withOrder order') s := by
  have hread : readDate .date order (splitEra s).1 = readDate .date order' (splitEra s).1 := by
    rw [readDate_eq, readDate_eq, h]
  simp only [Date.ofText, Context.withOrder, hread]

theorem Literal.readTimestamp_withOrder_eq (type : WireType) :
    readTimestamp (ctx.withOrder order) type s (splitEra s).1 (splitEra s).2 =
      readTimestamp (ctx.withOrder order') type s (splitEra s).1 (splitEra s).2 := by
  have hread : readDate type order (splitEra s).1 = readDate type order' (splitEra s).1 := by
    rw [readDate_eq, readDate_eq, h]
  simp only [readTimestamp, Context.withOrder, hread]

theorem Timestamp.ofText_withOrder_eq :
    ofText (ctx.withOrder order) s = ofText (ctx.withOrder order') s := by
  cases hinf : infinity? s with
  | some sign => rw [ofText_of_infinity? hinf, ofText_of_infinity? hinf]
  | none => rw [ofText_eq hinf, ofText_eq hinf, readTimestamp_withOrder_eq ctx h]

theorem Timestamp.ofZonedText_withOrder_eq :
    ofZonedText (ctx.withOrder order) s = ofZonedText (ctx.withOrder order') s := by
  cases hinf : infinity? s with
  | some sign => rw [ofZonedText_of_infinity? hinf, ofZonedText_of_infinity? hinf]
  | none =>
      rw [ofZonedText_eq hinf, ofZonedText_eq hinf, readTimestamp_withOrder_eq ctx h]
      rfl

/-- Where the spelling that is found does not depend on the order of dates, nothing does. -/
theorem Codec.ofText_withOrder_eq (type : WireType) :
    ofText type.kind type (ctx.withOrder order) s =
      ofText type.kind type (ctx.withOrder order') s := by
  cases type with
  | date => exact congrArg (liftM · >>= _) (Date.ofText_withOrder_eq ctx h)
  | timestamp => exact congrArg (· >>= _) (Timestamp.ofText_withOrder_eq ctx h)
  | timestamptz => exact congrArg (· >>= _) (Timestamp.ofZonedText_withOrder_eq ctx h)
  | int2 | int4 | int8 | numeric | float4 | float8 | bool | char | varchar => rfl
  | time | timetz => rfl

end Order

/-- A text whose date has no spelling is malformed. -/
theorem Codec.ofText_of_spelling?_eq_none {type : WireType} {order : DateOrder}
    {s body : List Char} {bc : Bool}
    (htype : type = .date ∨ type = .timestamp ∨ type = .timestamptz)
    (hinf : infinity? s = none) (hera : splitEra s = (body, bc)) (h : spelling? order body = none)
    (ctx : Context) :
    ofText type.kind type (ctx.withOrder order) s =
      .error (.rejected (.malformed type (String.ofList body))) := by
  have hread (type : WireType) :
      readDate type order body = .error (.malformed type (String.ofList body)) :=
    readDate_of_spelling?_eq_none h
  rcases htype with rfl | rfl | rfl
  · change liftM (Date.ofText (ctx.withOrder order) s) >>= _ = _
    rw [Date.lift_ofText_eq hinf, hera]
    change (liftM (readDate .date order body) >>= _) >>= _ = _
    rw [hread]
    rfl
  · change Timestamp.ofText (ctx.withOrder order) s >>= _ = _
    rw [Timestamp.ofText_eq hinf, hera, readTimestamp_eq]
    change ((liftM (readDate .timestamp order body) >>= _) >>= _) >>= _ = _
    rw [hread]
    rfl
  · change Timestamp.ofZonedText (ctx.withOrder order) s >>= _ = _
    rw [Timestamp.ofZonedText_eq hinf, hera, readTimestamp_eq]
    change ((liftM (readDate .timestamptz order body) >>= _) >>= _) >>= _ = _
    rw [hread]
    rfl

namespace Registry

/-- The registry with another order of dates. -/
def withOrder (r : Registry) (order : DateOrder) : Registry :=
  ⟨r.context.withOrder order⟩

theorem decodeText_withOrder (r : Registry) (order : DateOrder) (type : WireType) (s : List Char) :
    (r.withOrder order).decodeText type s =
      Codec.ofText type.kind type (r.context.withOrder order) s :=
  Codec.decode_ofText type _ s

/-- The order of dates matters only to a text that begins with two numbers and a year. The two
orders with the year last read such texts alike if day and month change places, whatever follows.
The order with the year first reads them as month, day and year; only where the first and the last
number have two digits, and the word ends behind them, is the first one the year, as if it were
written with its century. Where the word goes on behind the year, no order reads the text. -/
theorem decodeText_withOrder_numbers (r : Registry) {type : WireType}
    (htype : type = .date ∨ type = .timestamp ∨ type = .timestamptz) :
    (∀ first second sep rest, IsDigitPair first → IsDigitPair second → isSeparator sep →
        Alike ((r.withOrder .dmy).decodeText type (first ++ sep :: (second ++ sep :: rest)))
          ((r.withOrder .mdy).decodeText type (second ++ sep :: (first ++ sep :: rest)))) ∧
      (∀ first second year sep rest, IsDigitPair first → IsDigitPair second → IsYear year →
        isSeparator sep → EndsDigits rest →
        let s := first ++ sep :: (second ++ sep :: (year ++ rest))
        (¬(year.length = 2 ∧ first.length = 2) →
            (r.withOrder .ymd).decodeText type s = (r.withOrder .mdy).decodeText type s) ∧
          (year.length = 2 → first.length = 2 → endsWord rest → ∀ order,
            Alike ((r.withOrder .ymd).decodeText type s) ((r.withOrder order).decodeText type
              (fullYear first ++ sep :: (second ++ sep :: (year ++ rest))))) ∧
          (endsWord rest = false → ∀ order, ∃ text,
            (r.withOrder order).decodeText type s =
              .error (.rejected (.malformed type text)))) ∧
      ∀ s, ¬StartsYearLast (trim s) → ∀ order order',
        (r.withOrder order).decodeText type s = (r.withOrder order').decodeText type s := by
  simp only [decodeText_withOrder]
  refine ⟨?_, ?_, fun s hs order order' => ?_⟩
  · intro first second sep rest hfirst hsecond hsep
    obtain ⟨rest', bc, -, -, hsplit⟩ := exists_splitEra_numbers rest
    obtain ⟨hera, hinf⟩ := hsplit first second [] sep hfirst.1 hfirst.2.2 hsecond.2.2 nofun hsep
    obtain ⟨hera', hinf'⟩ := hsplit second first [] sep hsecond.1 hsecond.2.2 hfirst.2.2 nofun hsep
    exact Codec.alike_ofText hinf hinf' hera hera' (spelling?_swap hfirst hsecond hsep rest')
      r.context htype
  · intro first second year sep rest hfirst hsecond hyear hsep hrest
    obtain ⟨rest', bc, hword, hends, hsplit⟩ := exists_splitEra_numbers rest
    have hrest' := hends hrest
    obtain ⟨hera, hinf⟩ :=
      hsplit first second year sep hfirst.1 hfirst.2.2 hsecond.2.2 hyear.2 hsep
    refine ⟨fun hlen => ?_, fun hlen hlen' hend order => ?_, fun hend order => ?_⟩
    · apply Codec.ofText_withOrder_eq
      rw [hera]
      exact spelling?_ymd_eq_mdy hfirst hsecond hsep hyear hrest' hlen
    · have hne : fullYear first ≠ [] := List.append_ne_nil_of_right_ne_nil _ hfirst.1
      obtain ⟨hera', hinf'⟩ := hsplit (fullYear first) second year sep hne
        (isDecimalDigit_of_mem_fullYear hfirst.2.2) hsecond.2.2 hyear.2 hsep
      exact Codec.alike_ofText hinf hinf' hera hera'
        (spelling?_ymd_eq_fullYear hfirst hsecond hsep hyear hrest' hlen' hlen (hword ▸ hend) order)
        r.context htype
    · refine ⟨_, Codec.ofText_of_spelling?_eq_none htype hinf hera ?_ r.context⟩
      rw [spelling?_of_year hfirst hsecond hsep hyear hrest', hword, hend]
      rfl
  · apply Codec.ofText_withOrder_eq
    obtain ⟨tail, htrim, htail⟩ := exists_tail_splitEra s
    cases hlast : yearLast? (splitEra s).1 with
    | none => exact spelling?_eq_of_yearLast?_eq_none hlast order order'
    | some d => exact absurd (htrim ▸ startsYearLast_append hlast htail.not_decimalDigit) hs

/-- The pivot at its first year of the last century, with an era and a time behind the date. -/
theorem decodeText_withOrder_numbers_pivot :
    let r := standard .excerpt
    let first := "70".toList
    let second := "02".toList
    let year := "03".toList
    let rest := " 10:00 BC".toList
    let s := first ++ '-' :: (second ++ '-' :: (year ++ rest))
    let t : TimeOfDay := ⟨36000, 0, by decide, by decide⟩
    IsDigitPair first ∧ IsDigitPair second ∧ IsYear year ∧ isSeparator '-' ∧ EndsDigits rest ∧
      endsWord rest ∧
      Alike ((r.withOrder .dmy).decodeText .timestamp s)
        ((r.withOrder .mdy).decodeText .timestamp
          (second ++ '-' :: (first ++ '-' :: (year ++ rest)))) ∧
      (r.withOrder .ymd).decodeText .timestamp s =
        .ok (.timestamp ⟨⟨-1969, 2, 3, by decide⟩, t⟩) ∧
      ¬StartsYearLast (trim "1970-02-03".toList) ∧
      (r.withOrder .ymd).decodeText .timestamp "1970-02-03".toList =
        (r.withOrder .dmy).decodeText .timestamp "1970-02-03".toList := by
  intro r first second year rest s t
  have hfirst : IsDigitPair first := by decide
  have hsecond : IsDigitPair second := by decide
  have hyear : IsYear year := by decide
  have hrest : EndsDigits rest := by decide
  have hother : ¬StartsYearLast (trim "1970-02-03".toList) :=
    fun h => absurd h.length_splitDigitRun (by decide)
  have htype : WireType.timestamp = .date ∨ WireType.timestamp = .timestamp ∨
      WireType.timestamp = .timestamptz := .inr (.inl rfl)
  obtain ⟨hswap, hcentury, hsame⟩ := decodeText_withOrder_numbers r htype
  have hpivot := (hcentury first second year '-' rest hfirst hsecond hyear rfl hrest).2.1
    rfl rfl rfl .ymd
  refine ⟨hfirst, hsecond, hyear, rfl, hrest, rfl,
    hswap first second '-' (year ++ rest) hfirst hsecond rfl, hpivot.eq_ok_iff.mpr ?_, hother,
    hsame _ hother _ _⟩
  exact toOption_eq_some_iff.mp (by decide +kernel)

/-- Behind a year of two digits a `T` is taken for more of its word, behind a day it is not. -/
theorem decodeText_withOrder_letter :
    let r := standard .excerpt
    let first := "20".toList
    let second := "01".toList
    let year := "06".toList
    let rest := "T10:00:00".toList
    let short := first ++ '-' :: (second ++ '-' :: (year ++ rest))
    let full := fullYear first ++ '-' :: (second ++ '-' :: (year ++ rest))
    IsDigitPair first ∧ IsDigitPair second ∧ IsYear year ∧ EndsDigits rest ∧
      (r.withOrder .ymd).decodeText .timestamp full =
        .ok (.timestamp ⟨⟨2020, 1, 6, by decide⟩, ⟨36000, 0, by decide, by decide⟩⟩) ∧
      (r.withOrder .ymd).decodeText .timestamp short =
        .error (.rejected (.malformed .timestamp "20-01-06T10:00:00")) ∧
      ¬Alike ((r.withOrder .ymd).decodeText .timestamp short)
        ((r.withOrder .ymd).decodeText .timestamp full) := by
  intro r first second year rest short full
  have hfull : (r.withOrder .ymd).decodeText .timestamp full =
      .ok (.timestamp ⟨⟨2020, 1, 6, by decide⟩, ⟨36000, 0, by decide, by decide⟩⟩) :=
    toOption_eq_some_iff.mp (by decide +kernel)
  have hshort : (r.withOrder .ymd).decodeText .timestamp short =
      .error (.rejected (.malformed .timestamp "20-01-06T10:00:00")) := by decide +kernel
  have hdiffer : ¬Alike ((r.withOrder .ymd).decodeText .timestamp short)
      ((r.withOrder .ymd).decodeText .timestamp full) :=
    fun h => absurd (hshort.symm.trans (h.eq_ok_iff.mpr hfull)) nofun
  refine ⟨?_, ?_, ?_, ?_, hfull, hshort, hdiffer⟩ <;> decide

end Registry

end ScalarWire
