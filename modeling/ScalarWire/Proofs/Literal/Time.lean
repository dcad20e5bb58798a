import ScalarWire.Calendar.Iso
import ScalarWire.Literal.Time
import ScalarWire.Proofs.Calendar.Timestamp
import ScalarWire.Proofs.Error
import ScalarWire.Proofs.Literal.Digits

/-!
# Written times as literals

A time with hour, minute and second of two digits each and any spelling of its fraction is taken off
the front of any text that does not go on with a digit, a fraction or a meridiem, and its fields
make up the same microseconds.
-/

namespace ScalarWire.Literal

open Text

/-- The digits behind the point of a written time. -/
def fractionDigits (micros : Nat) : List Char :=
  ((Numeral.padded 6 micros).reverse.dropWhile (· == '0')).reverse

theorem isoFraction_eq {micros : Nat} (h : micros ≠ 0) :
    TimeOfDay.isoFraction micros = '.' :: fractionDigits micros :=
  if_neg h

section fractionDigits

variable {micros : Nat}

theorem isDigit_of_mem_fractionDigits : ∀ c ∈ fractionDigits micros, c.isDigit := by
  obtain ⟨k, hk⟩ := eq_reverse_dropWhile_append '0' (Numeral.padded 6 micros)
  intro c hc
  have hmem : c ∈ Numeral.padded 6 micros := by
    rw [hk]
    exact List.mem_append_left _ hc
  exact Numeral.isDigit_of_mem_padded c hmem

/-- The digits left out are zeros, so the others count the microseconds. -/
theorem value_fractionDigits (h : micros < 1000000) :
    (fractionDigits micros).length ≤ 6 ∧
      Numeral.value (fractionDigits micros) * 10 ^ (6 - (fractionDigits micros).length) =
        micros := by
  obtain ⟨k, hk⟩ := eq_reverse_dropWhile_append '0' (Numeral.padded 6 micros)
  have hlen : (Numeral.padded 6 micros).length = 6 := Numeral.length_padded (by decide) h
  have hvalue := Numeral.value_padded 6 micros
  rw [← fractionDigits] at hk
  rw [hk, List.length_append, List.length_replicate] at hlen
  rw [hk, Numeral.value_append, Numeral.value_replicate_zero, List.length_replicate,
    Nat.add_zero] at hvalue
  refine ⟨by omega, ?_⟩
  rw [show 6 - (fractionDigits micros).length = k by omega, hvalue]

theorem fractionDigits_ne_nil (h0 : micros ≠ 0) (h : micros < 1000000) :
    fractionDigits micros ≠ [] := by
  intro hnil
  have hvalue := (value_fractionDigits h).2
  rw [hnil, show Numeral.value [] = 0 from rfl, Nat.zero_mul] at hvalue
  exact h0 hvalue.symm

end fractionDigits

theorem utf8Size_of_ascii {c : Char} (h : c.toNat < 128) : c.utf8Size = 1 := by
  rw [Char.utf8Size_eq_one_iff, UInt32.le_iff_toNat_le]
  exact Nat.le_of_lt_succ h

/-- A text of single bytes is cut like a list. -/
theorem cut?_eq_take_drop {n : Nat} {s : List Char} (hs : ∀ c ∈ s, c.toNat < 128) :
    Utf8.cut? n s = some (s.take n, s.drop n) := by
  induction s generalizing n with
  | nil => cases n <;> rfl
  | cons c s ih =>
      cases n with
      | zero => rfl
      | succ n =>
          have hsize : c.utf8Size = 1 := utf8Size_of_ascii (hs c List.mem_cons_self)
          rw [Utf8.cut?, if_pos (by omega), hsize, Nat.add_sub_cancel,
            ih fun d hd => hs d (List.mem_cons_of_mem _ hd)]
          rfl

theorem cut?_of_ascii {n : Nat} {s : List Char} (hs : ∀ c ∈ s, c.toNat < 128)
    (hlen : s.length ≤ n) : Utf8.cut? n s = some (s, []) := by
  rw [cut?_eq_take_drop hs, List.take_of_length_le hlen, List.drop_of_length_le hlen]

/-- The spellings of a fraction of a second in whole microseconds: up to six digits behind a point,
or nothing for no fraction. -/
inductive SpellsMicros (micros : Nat) : List Char → Prop where
  | whole (h : micros = 0) : SpellsMicros micros []
  | point {digits : List Char} (ne_nil : digits ≠ []) (length_le : digits.length ≤ 6)
    (isDigit : ∀ c ∈ digits, c.isDigit)
    (value_eq : Numeral.value digits * 10 ^ (6 - digits.length) = micros) :
    SpellsMicros micros ('.' :: digits)

/-- The written fraction of a time leaves out the zeros at its end. -/
theorem spellsMicros_isoFraction {micros : Nat} (h : micros < 1000000) :
    SpellsMicros micros (TimeOfDay.isoFraction micros) := by
  by_cases h0 : micros = 0
  · rw [TimeOfDay.isoFraction, if_pos h0]
    exact .whole h0
  · obtain ⟨hlen, hvalue⟩ := value_fractionDigits h
    rw [isoFraction_eq h0]
    exact .point (fractionDigits_ne_nil h0 h) hlen isDigit_of_mem_fractionDigits hvalue

/-- The meridiem that a word names. -/
def meridiemOf? (word : List Char) : Option Meridiem :=
  match String.ofList (lower word) with
  | "am" => some .am
  | "pm" => some .pm
  | _ => none

theorem lower_of_meridiemOf? {word : List Char} {meridiem : Meridiem}
    (h : meridiemOf? word = some meridiem) :
    lower word = "am".toList ∨ lower word = "pm".toList := by
  unfold meridiemOf? at h
  split at h
  · next hword => exact Or.inl ((String.toList_ofList).symm.trans (congrArg String.toList hword))
  · next hword => exact Or.inr ((String.toList_ofList).symm.trans (congrArg String.toList hword))
  · exact nomatch h

/-- A meridiem is two letters behind any blanks, with the end of a word behind them. -/
theorem splitMeridiem?_eq (s : List Char) :
    splitMeridiem? s = (meridiemOf? ((trimStart s).take 2)).bind fun meridiem =>
      if endsWord ((trimStart s).drop 2) then some (meridiem, (trimStart s).drop 2) else none := by
  dsimp only [splitMeridiem?, meridiemOf?]
  generalize String.ofList (lower ((trimStart s).take 2)) = word
  split
  · rfl
  · rfl
  · simp

theorem splitFraction?_cons {c : Char} {rest : List Char} (hpoint : c ≠ '.') (hcomma : c ≠ ',') :
    splitFraction? (c :: rest) = none :=
  if_neg fun h => h.1.elim hpoint hcomma

/-- What may follow a time without being taken for a part of it. -/
structure EndsTime (rest : List Char) : Prop where
  endsDigits : EndsDigits rest
  splitFraction? : splitFraction? rest = none
  splitMeridiem? : splitMeridiem? rest = none

/-- The digits of a fraction behind its point. -/
def fractionField : List Char → Option (List Char)
  | [] => none
  | _ :: digits => some digits

theorem splitOptional_of_none {α : Type} {split? : List Char → Option (α × List Char)}
    {s : List Char} (h : split? s = none) : splitOptional split? s = (none, s) := by
  rw [splitOptional, h]

theorem splitOptional_of_some {α : Type} {split? : List Char → Option (α × List Char)}
    {s rest : List Char} {part : α} (h : split? s = some (part, rest)) :
    splitOptional split? s = (some part, rest) := by
  rw [splitOptional, h]

theorem splitFraction?_append {micros : Nat} {fraction rest : List Char}
    (hf : SpellsMicros micros fraction) (h : EndsTime rest) :
    splitOptional splitFraction? (fraction ++ rest) = (fractionField fraction, rest) := by
  cases hf with
  | whole => exact splitOptional_of_none h.splitFraction?
  | point hne _ hdigits _ =>
      have hrun := splitDigitRun_append
        (fun c hc => isDecimalDigit_of_isDigit (hdigits c hc)) h.endsDigits
      apply splitOptional_of_some
      simp only [List.cons_append, splitFraction?, hrun]
      exact if_pos ⟨Or.inl trivial, hne⟩

theorem splitSecond?_padded {n : Nat} (hn : n < 60) (rest : List Char) :
    splitSecond? (':' :: (Numeral.padded 2 n ++ rest)) = some (Numeral.padded 2 n, rest) := by
  simp only [splitSecond?, splitDigits_padded (show n < 100 by omega)]
  exact if_neg (Numeral.padded_ne_nil 2 n)

/-- The whole second that lies this many microseconds after midnight, as hour, minute and second in
two digits each, with a fraction behind them. The end of the day has the hour 24. -/
def dayText (micros : Nat) (fraction : List Char) : List Char :=
  Numeral.padded 2 (micros / 1000000 / 3600) ++
    ':' :: Numeral.padded 2 (micros / 1000000 / 60 % 60) ++
    ':' :: Numeral.padded 2 (micros / 1000000 % 60) ++ fraction

/-- Hour, minute and second of a time in two digits each, with a fraction behind them. -/
def clockText (t : TimeOfDay) (fraction : List Char) : List Char :=
  Numeral.padded 2 t.hour ++ ':' :: Numeral.padded 2 t.minute ++ ':' :: Numeral.padded 2 t.second ++
    fraction

theorem clockText_eq_dayText (t : TimeOfDay) (fraction : List Char) :
    clockText t fraction = dayText t.micros fraction := by
  have hseconds : t.micros / 1000000 = t.seconds := by
    rw [TimeOfDay.micros]
    omega
  rw [dayText, hseconds]
  rfl

theorem timeText?_dayText {micros : Nat} (hm : micros ≤ microsPerDay) {fraction rest : List Char}
    (hf : SpellsMicros (micros % 1000000) fraction) (h : EndsTime rest) :
    timeText? (dayText micros fraction ++ rest) =
      some ⟨Numeral.padded 2 (micros / 1000000 / 3600),
        Numeral.padded 2 (micros / 1000000 / 60 % 60),
        some (Numeral.padded 2 (micros / 1000000 % 60)), fractionField fraction, none, rest⟩ := by
  rw [microsPerDay] at hm
  have hhour : micros / 1000000 / 3600 < 100 := by omega
  have hminute : micros / 1000000 / 60 % 60 < 100 := by omega
  have hsecond : micros / 1000000 % 60 < 60 := by omega
  have hne : ¬(Numeral.padded 2 (micros / 1000000 / 3600) = [] ∨
      Numeral.padded 2 (micros / 1000000 / 60 % 60) = []) := by
    simp [Numeral.padded_ne_nil]
  simp only [dayText, List.append_assoc, List.cons_append, timeText?, splitDigits_padded hhour,
    splitDigits_padded hminute, if_neg hne, splitOptional_of_some (splitSecond?_padded hsecond _),
    Option.isSome_some, if_true, splitFraction?_append hf h, splitOptional_of_none h.splitMeridiem?]

/-- A field of a time as a number. -/
def readField (outOfRange : CodecError) (digits : List Char) : Except Failure Nat :=
  match Numeral.read? digits with
  | some n => pure n
  | none => throw (.rejected outOfRange)

/-- A part of a time that may be left out, read by a function of its own. -/
def readOptional (read : List Char → Except Failure Nat) : Option (List Char) → Except Failure Nat
  | some digits => read digits
  | none => pure 0

/-- The microseconds that numbers in range make up. -/
def totalMicros (outOfRange : CodecError) (hour minute second fraction : Nat)
    (meridiem? : Option Meridiem) : Except Failure Nat :=
  match clockHour? hour meridiem? with
  | none => throw (.rejected outOfRange)
  | some hour =>
    let total := ((hour * 60 + minute) * 60 + second) * 1000000 + fraction
    if 59 < minute ∨ 59 < second ∨ microsPerDay < total then throw (.rejected outOfRange)
    else pure total

/-- The fields are read one after the other before they are put together. -/
theorem TimeText.micros_eq (outOfRange : CodecError) (t : TimeText) :
    t.micros outOfRange =
      (readField outOfRange t.hour >>= fun hour =>
        readField outOfRange t.minute >>= fun minute =>
          readOptional (readField outOfRange) t.second? >>= fun second =>
            readOptional (fractionMicros outOfRange) t.fraction? >>= fun fraction =>
              totalMicros outOfRange hour minute second fraction t.meridiem?) := by
  obtain ⟨hour, minute, second?, fraction?, meridiem?, rest⟩ := t
  cases second? <;> cases fraction? <;> rfl

theorem readField_padded (outOfRange : CodecError) (width n : Nat) :
    readField outOfRange (Numeral.padded width n) = .ok n := by
  rw [readField, Numeral.read?_padded]
  rfl

theorem readOptional_fractionField (outOfRange : CodecError) {micros : Nat}
    {fraction : List Char} (hf : SpellsMicros micros fraction) :
    readOptional (fractionMicros outOfRange) (fractionField fraction) = .ok micros := by
  cases hf with
  | whole h =>
      rw [h]
      rfl
  | @point digits hne hlen hdigits hvalue =>
      have hcut : Utf8.cut? 6 digits = some (digits, []) := by
        apply cut?_of_ascii _ hlen
        intro c hc
        have := (Numeral.isDigit_iff c).mp (hdigits c hc)
        omega
      have hread := Numeral.read?_eq_some_iff.mpr ⟨hne, hdigits, rfl⟩
      change fractionMicros outOfRange digits = .ok micros
      simp only [fractionMicros, hcut, hread, hvalue]
      rfl

/-- The fields of a written time make up its microseconds. -/
theorem micros_dayText (outOfRange : CodecError) {micros : Nat} (hm : micros ≤ microsPerDay)
    {fraction : List Char} (hf : SpellsMicros (micros % 1000000) fraction) (rest : List Char) :
    TimeText.micros outOfRange ⟨Numeral.padded 2 (micros / 1000000 / 3600),
      Numeral.padded 2 (micros / 1000000 / 60 % 60),
      some (Numeral.padded 2 (micros / 1000000 % 60)), fractionField fraction, none, rest⟩ =
        .ok micros := by
  have htotal : ((micros / 1000000 / 3600 * 60 + micros / 1000000 / 60 % 60) * 60 +
      micros / 1000000 % 60) * 1000000 + micros % 1000000 = micros := by
    omega
  have hlimits : ¬(59 < micros / 1000000 / 60 % 60 ∨ 59 < micros / 1000000 % 60 ∨
      microsPerDay < micros) := by
    omega
  rw [TimeText.micros_eq]
  refine (bind_eq_of_ok (readField_padded outOfRange 2 _)).trans ?_
  refine (bind_eq_of_ok (readField_padded outOfRange 2 _)).trans ?_
  refine (bind_eq_of_ok (readField_padded outOfRange 2 _)).trans ?_
  refine (bind_eq_of_ok (readOptional_fractionField outOfRange hf)).trans ?_
  change (if _ then _ else _) = _
  rw [htotal, if_neg hlimits]
  rfl

/-- A written time is read off the front of any text that can follow a time. -/
theorem readTime_dayText (type : WireType) {micros : Nat} (hm : micros ≤ microsPerDay)
    {fraction rest : List Char} (hf : SpellsMicros (micros % 1000000) fraction)
    (h : EndsTime rest) : readTime type (dayText micros fraction ++ rest) = .ok (micros, rest) := by
  simp only [readTime, timeText?_dayText hm hf h, micros_dayText _ hm hf]
  rfl

theorem readTime_clockText (type : WireType) (t : TimeOfDay) {fraction rest : List Char}
    (hf : SpellsMicros (t.micros % 1000000) fraction) (h : EndsTime rest) :
    readTime type (clockText t fraction ++ rest) = .ok (t.micros, rest) := by
  have hday : t.micros ≤ microsPerDay := by
    have hlt := t.seconds_lt
    rw [TimeOfDay.micros, microsPerDay]
    omega
  rw [clockText_eq_dayText, readTime_dayText type hday hf h]

theorem spellsMicros_iso (t : TimeOfDay) :
    SpellsMicros (t.micros % 1000000) (TimeOfDay.isoFraction (t.micros % 1000000)) :=
  spellsMicros_isoFraction (Nat.mod_lt t.micros (by decide))

theorem readTime_iso (type : WireType) (t : TimeOfDay) {rest : List Char} (h : EndsTime rest) :
    readTime type (t.iso ++ rest) = .ok (t.micros, rest) :=
  readTime_clockText type t (spellsMicros_iso t) h

theorem endsTime_nil : EndsTime [] := by
  constructor <;> first | rfl | simp [EndsDigits]

/-- The displacement of a value already brought to UTC. -/
theorem endsTime_utc : EndsTime "+00".toList := by
  refine ⟨endsDigits_cons (by decide), ?_, ?_⟩ <;> decide

end ScalarWire.Literal
