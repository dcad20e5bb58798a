import ScalarWire.Proofs.Codec.Temporal
import ScalarWire.Proofs.Literal.WholeText
import ScalarWire.Registry
import ScalarWire.Zone.Excerpt

/-!
# Texts of every type in any letter case

A registry reads two texts alike if they differ only in letter case and in blanks around them,
unless the column holds text itself.
-/

namespace ScalarWire

open Text

theorem IntegerCodec.ignoresCase_ofText (type : WireType) : IgnoresCase (ofText type) := by
  refine .of_sees Numeral.readSigned? Numeral.readSigned?_lower fun s t hsees v h => ?_
  unfold ofText at h ⊢
  dsimp only at h ⊢
  rw [← hsees]
  cases hread : Numeral.readSigned? (trim s) with
  | none =>
      rw [hread] at h
      exact nomatch h
  | some n =>
      simp only [hread] at h ⊢
      split_ifs at h ⊢
      exact h

theorem BooleanCodec.ignoresCase_ofText (type : WireType) : IgnoresCase (ofText type) := by
  refine .of_sees lower lower_lower fun s t hsees b h => ?_
  unfold ofText at h ⊢
  rw [← hsees]
  split at h
  case h_11 => exact nomatch h
  all_goals exact h

theorem FloatFormat.special?_lower (s : List Char) : special? (lower s) = special? s := by
  unfold special?
  rw [lower_lower]

theorem FloatCodec.ignoresCase_ofText (type : WireType) : IgnoresCase (ofText type) := by
  refine .of_sees (fun s => (FloatFormat.special? s, DecimalLiteral.read? s)) ?_ ?_
  · intro s
    rw [FloatFormat.special?_lower, DecimalLiteral.read?_lower]
  · intro s t hsees x h
    obtain ⟨hspecial, hread⟩ := Prod.mk.inj hsees
    unfold ofText at h ⊢
    dsimp only at h ⊢
    rw [← hspecial, ← hread]
    split at h
    · exact h
    · split at h
      · exact nomatch h
      · split_ifs at h ⊢
        exact h

/-- Signs have no case, and the names of the special numbers are found in any. -/
theorem Decimal.isSpecial_lower (s : List Char) : isSpecial (lower s) = isSpecial s := by
  let isSign (c : Char) : Bool := c == '+' || c == '-'
  have hsign : ∀ c : Char, isSign c.toLower = isSign c := by
    intro c
    simp only [isSign, toLower_beq (d := '+') (by decide), toLower_beq (d := '-') (by decide)]
  have hdrop : (lower s).dropWhile isSign = lower (s.dropWhile isSign) := dropWhile_lower s hsign
  change (sameFold (lower s) _ || sameFold ((lower s).dropWhile isSign) _) =
    (sameFold s _ || sameFold (s.dropWhile isSign) _)
  rw [hdrop, lower_sameFold, lower_sameFold]

theorem Decimal.ignoresCase_ofText : IgnoresCase ofText := by
  refine .of_sees (fun s => (isSpecial s, DecimalLiteral.read? s)) ?_ ?_
  · intro s
    rw [isSpecial_lower, DecimalLiteral.read?_lower]
  · intro s t hsees d h
    obtain ⟨hspecial, hread⟩ := Prod.mk.inj hsees
    unfold ofText at h ⊢
    dsimp only at h ⊢
    rw [← hspecial, ← hread]
    split at h
    · exact nomatch h
    · split at h
      · exact nomatch h
      · split_ifs at h ⊢
        exact h

namespace Codec

theorem ignoresCase_ofText {kind : Kind} (h : kind ≠ .text) (type : WireType) (ctx : Context) :
    IgnoresCase (ofText kind type ctx) := by
  cases kind with
  | integer => exact (IntegerCodec.ignoresCase_ofText type).lift.bind_pure Value.integer
  | numeric => exact Decimal.ignoresCase_ofText.bind_pure Value.numeric
  | float => exact (FloatCodec.ignoresCase_ofText type).lift.bind_pure Value.float
  | boolean => exact (BooleanCodec.ignoresCase_ofText type).lift.bind_pure Value.boolean
  | text => exact absurd rfl h
  | date => exact (Date.ignoresCase_ofText ctx).lift.bind_pure Value.date
  | time => exact TimeOfDay.ignoresCase_ofText.bind_pure Value.time
  | timeTz => exact (TimeOfDay.ignoresCase_ofZonedText ctx).bind_pure Value.timeTz
  | timestamp => exact (Timestamp.ignoresCase_ofText ctx).bind_pure Value.timestamp
  | timestampTz => exact (Timestamp.ignoresCase_ofZonedText ctx).bind_pure Value.timestampTz

/-- Only the two character types hold text itself. -/
theorem kind_ne_text {type : WireType} (hchar : type ≠ .char) (hvarchar : type ≠ .varchar) :
    type.kind ≠ .text := by
  cases type with
  | char => exact absurd rfl hchar
  | varchar => exact absurd rfl hvarchar
  | int2 | int4 | int8 | numeric | float4 | float8 | bool => decide
  | date | timestamp | timestamptz | time | timetz => decide

end Codec

namespace Registry

/-- Two texts that differ only in letter case and in blanks around them are read as the same value
or not at all, by every registry and for every type that does not hold text itself. -/
theorem decodeText_eq_ok_iff_of_sameFold (r : Registry) {type : WireType} (hchar : type ≠ .char)
    (hvarchar : type ≠ .varchar) {s t : List Char} (hst : sameFold (trim s) (trim t)) (v : Value) :
    r.decodeText type s = .ok v ↔ r.decodeText type t = .ok v := by
  have hread := Codec.ignoresCase_ofText (Codec.kind_ne_text hchar hvarchar) type r.context
  rw [decodeText, decodeText, decode, decode, Codec.decode_ofText, Codec.decode_ofText]
  exact hread.congr hst v

/-- The name of a month, an ordinal, a meridiem and a region, in capitals and in other letters. -/
theorem decodeText_capitals :
    let r := standard .excerpt
    let capitals := "JUNE 1ST, 2008 10:15PM US/PACIFIC".toList
    let mixed := "\u3000June 1sT, 2008 10:15pm us/Pacific ".toList
    let v := Value.timestampTz ⟨⟨2008, 6, 2, by decide⟩, ⟨18900, 0, by decide, by decide⟩⟩
    sameFold (trim capitals) (trim mixed) ∧ r.decodeText .timestamptz capitals = .ok v ∧
      r.decodeText .timestamptz mixed = .ok v := by
  intro r capitals mixed v
  have hsame : sameFold (trim capitals) (trim mixed) := by decide +kernel
  have hread : r.decodeText .timestamptz capitals = .ok v :=
    toOption_eq_some_iff.mp (by decide +kernel)
  exact ⟨hsame, hread,
    (decodeText_eq_ok_iff_of_sameFold r (by decide) (by decide) hsame v).mp hread⟩

end Registry

end ScalarWire
