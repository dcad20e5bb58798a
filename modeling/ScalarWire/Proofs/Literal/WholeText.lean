import ScalarWire.Proofs.Literal.LetterCase
import ScalarWire.Proofs.Literal.ZonedShift
import ScalarWire.Proofs.Zone.LetterCase

/-!
# Temporal texts in any letter case

Infinities, era markers, dates, times and zones all fold letter case, and what stands between them
has none. So a text of a temporal type is read alike in any letter case and with any blanks around
it.
-/

namespace ScalarWire

open Literal Text

namespace Literal

variable (s : List Char)

theorem infinity?_lower : infinity? (lower s) = infinity? s := by
  unfold infinity?
  rw [trim_lower, lower_lower]

theorem infinity?_trim : infinity? (trim s) = infinity? s := by
  unfold infinity?
  rw [trim_trim]

/-- The era is told by the last word in any letter case, and as much stands before it. -/
theorem splitEra_lower : splitEra (lower s) = (lower (splitEra s).1, (splitEra s).2) := by
  have hword : ((lower (trim s)).reverse.takeWhile fun c => !isBlank c).reverse =
      lower ((trim s).reverse.takeWhile fun c => !isBlank c).reverse := by
    have hvisible : ∀ c : Char, (fun c => !isBlank c) c.toLower = (fun c => !isBlank c) c :=
      fun c => congrArg not (isBlank_toLower c)
    rw [lower_reverse, takeWhile_lower _ hvisible, lower_reverse]
  simp only [splitEra, trim_lower, hword, length_lower, lower_take, lower_eq_nil_iff,
    eraMarker?_lower]
  generalize ((trim s).reverse.takeWhile fun c => !isBlank c).reverse = word
  split_ifs
  · rfl
  · cases eraMarker? word with
    | none => rfl
    | some bc => rw [trimEnd_lower]

theorem splitEra_trim : splitEra (trim s) = splitEra s := by
  rw [splitEra, trim_trim, splitEra]

/-- A text is an infinity in every letter case, or else is read before its era marker. -/
theorem ignoresCase_of_finite {ε α : Type} {read : List Char → Except ε α} (infinite : Infinity → α)
    (finite : List Char → Bool → α → Prop)
    (hinfinite : ∀ s sign, infinity? s = some sign → read s = .ok (infinite sign))
    (hfinite : ∀ s, infinity? s = none →
      ∀ a, read s = .ok a ↔ finite (splitEra s).1 (splitEra s).2 a)
    (hlower : ∀ body bc a, finite (lower body) bc a ↔ finite body bc a) : IgnoresCase read := by
  constructor
  · intro s a
    cases h : infinity? s with
    | some sign => rw [hinfinite s sign h, hinfinite _ sign ((infinity?_trim s).trans h)]
    | none => rw [hfinite s h, hfinite _ ((infinity?_trim s).trans h), splitEra_trim]
  · intro s a
    cases h : infinity? s with
    | some sign => rw [hinfinite s sign h, hinfinite _ sign ((infinity?_lower s).trans h)]
    | none => rw [hfinite s h, hfinite _ ((infinity?_lower s).trans h), splitEra_lower, hlower]

/-- What a reader leaves over in lower case stands for what it leaves over otherwise, if that is
looked at without regard to case. -/
theorem exists_lower_iff {P Q : List Char → Prop} (hQ : ∀ rest, Q (lower rest) ↔ Q rest) :
    (∃ rest', (∃ rest, P rest ∧ lower rest = rest') ∧ Q rest') ↔ ∃ rest, P rest ∧ Q rest := by
  constructor
  · rintro ⟨_, ⟨rest, hread, rfl⟩, hrest⟩
    exact ⟨rest, hread, (hQ rest).mp hrest⟩
  · rintro ⟨rest, hread, hrest⟩
    exact ⟨lower rest, ⟨rest, hread, rfl⟩, (hQ rest).mpr hrest⟩

/-- The whole input is only what an error reports. -/
theorem readTimestamp_congr {ctx : Context} {type : WireType} (input input' : List Char)
    {body : List Char} {bc : Bool} {t : Timestamp} {rest : List Char} :
    readTimestamp ctx type input body bc = .ok (t, rest) ↔
      readTimestamp ctx type input' body bc = .ok (t, rest) :=
  readTimestamp_eq_ok_iff.trans readTimestamp_eq_ok_iff.symm

theorem ignoresCase_zoneOf (ctx : Context) (type : WireType) : IgnoresCase (zoneOf ctx type) := by
  have hresolve := ctx.zones.ignoresCase_resolve ctx.regions type
  constructor
  · intro s zone
    rw [zoneOf_congr (trim_trim s)]
  · intro s zone
    unfold zoneOf
    rw [isBlankText_lower]
    split_ifs
    · rfl
    · exact hresolve.lower s zone

end Literal

/-- The end of the calendar that an infinity stands for. -/
def Literal.Infinity.date : Infinity → Date
  | before => .first
  | after => .last

variable (ctx : Context)

theorem Date.ignoresCase_ofText : IgnoresCase (ofText ctx) := by
  apply ignoresCase_of_finite Infinity.date fun body bc date => ∃ fields rest,
    readDate .date ctx.dateOrder body = .ok (fields, rest) ∧
      isBlankText rest ∧ fields.toDate? bc = some date
  · intro s sign h
    simp only [ofText, h]
    cases sign <;> rfl
  · intro s h date
    exact ofText_eq_ok_iff h
  · intro body bc date
    simp only [readDate_lower]
    exact exists_congr fun fields => exists_lower_iff fun rest => by rw [isBlankText_lower]

namespace TimeOfDay

theorem ignoresCase_ofText : IgnoresCase ofText := by
  constructor
  · intro s t
    rw [ofText_eq_ok_iff, ofText_eq_ok_iff, trim_trim]
  · intro s t
    simp only [ofText_eq_ok_iff, trim_lower, readTime_lower]
    exact exists_congr fun micros => exists_lower_iff fun rest => by rw [isBlankText_lower]

theorem ignoresCase_ofZonedText : IgnoresCase (ofZonedText ctx) := by
  have hzone := (ignoresCase_zoneOf ctx .timetz).lower
  constructor
  · intro s t
    rw [ofZonedText_eq_ok_iff, ofZonedText_eq_ok_iff, trim_trim]
  · intro s t
    simp only [ofZonedText_eq_ok_iff, trim_lower, readTime_lower, exists_and_left]
    exact exists_congr fun micros => exists_lower_iff fun rest => by simp only [hzone]

end TimeOfDay

namespace Timestamp

theorem ignoresCase_ofText : IgnoresCase (ofText ctx) := by
  apply ignoresCase_of_finite Infinity.timestamp fun body bc t => ∃ rest,
    readTimestamp ctx .timestamp body body bc = .ok (t, rest) ∧ isBlankText rest
  · intro s sign h
    exact ofText_of_infinity? h
  · intro s h t
    simp only [ofText_eq_ok_iff h, readTimestamp_congr s (splitEra s).1]
  · intro body bc t
    simp only [readTimestamp_lower body]
    exact exists_lower_iff fun rest => by rw [isBlankText_lower]

theorem ignoresCase_ofZonedText : IgnoresCase (ofZonedText ctx) := by
  have hzone := (ignoresCase_zoneOf ctx .timestamptz).lower
  apply ignoresCase_of_finite Infinity.timestamp fun body bc t => ∃ wall rest zone,
    readTimestamp ctx .timestamptz body body bc = .ok (wall, rest) ∧
      zoneOf ctx .timestamptz rest = .ok zone ∧
        wall.addSeconds? (-(zone.offsetAt wall).east) = some t
  · intro s sign h
    exact ofZonedText_of_infinity? h
  · intro s h t
    simp only [ofZonedText_eq_ok_iff h, readTimestamp_congr s (splitEra s).1]
  · intro body bc t
    simp only [readTimestamp_lower body, exists_and_left]
    exact exists_congr fun wall => exists_lower_iff fun rest => by simp only [hzone]

end Timestamp

end ScalarWire
