import ScalarWire.Proofs.Codec.TemporalBinary
import ScalarWire.Proofs.Float.Text
import ScalarWire.Registry
import ScalarWire.Zone.Excerpt

/-!
# Floating-point literals

A text that is no name of NaN or of an infinity is malformed unless it spells a literal. A literal
is out of range if its number rounds to infinity, or to zero without being zero; otherwise it is
read as the number of the format that is nearest to it, with the sign of the literal.
-/

namespace ScalarWire

/-- A number that a format loses: one that rounds to infinity, or to zero and is not zero. -/
def FloatFormat.IsOutOfRange (f : FloatFormat) (x : ℚ) : Prop :=
  f.IsNearest |x| f.infinityBits ∨ x ≠ 0 ∧ f.IsNearest |x| 0

namespace FloatCodec

open FloatFormat (single double)

variable {type : WireType}

theorem withinDouble_format (type : WireType) : (format type).WithinDouble := by
  unfold format
  split_ifs
  · exact FloatFormat.withinDouble_single
  · exact FloatFormat.withinDouble_double

/-- The check on what was read asks whether the literal was rounded to infinity, or away to zero. -/
theorem isLost_iff {f : FloatFormat} {bits : Nat} (h : bits ≤ f.infinityBits) (negative : Bool)
    (l : DecimalLiteral) :
    isLost l (f.decode (f.signed negative bits)) ↔
      bits = f.infinityBits ∨ l.toRat ≠ 0 ∧ bits = 0 := by
  rcases h.lt_or_eq with hlt | rfl
  · have hsignificand : f.significand bits = 0 ↔ bits = 0 := by
      refine ⟨fun hzero => ?_, fun hzero => by simp [hzero, FloatFormat.significand]⟩
      by_contra hne
      exact FloatFormat.significand_ne_zero hne hzero
    rw [FloatFormat.decode_signed hlt, isLost, Bool.and_eq_true, beq_iff_eq, bne_iff_ne,
      hsignificand, or_iff_right hlt.ne, ne_eq l.toRat, l.toRat_eq_zero_iff, and_comm]
  · rw [FloatFormat.decode_signed_infinityBits]
    exact iff_of_true rfl (Or.inl rfl)

section ofText

variable {s : List Char} {l : DecimalLiteral}

theorem ofText_of_no_literal (hspecial : ¬FloatFormat.SpellsSpecial (Text.trim s))
    (h : ∀ l : DecimalLiteral, ¬l.Spells (Text.trim s)) :
    ofText type s = .error (.malformed type (String.ofList s)) := by
  have hread : DecimalLiteral.read? (Text.trim s) = none :=
    Option.eq_none_iff_forall_ne_some.mpr fun l hl => h l (DecimalLiteral.read?_eq_some_iff.mp hl)
  simp only [ofText, FloatFormat.special?_eq_none_iff.mpr hspecial, hread]
  rfl

theorem ofText_of_spells (hl : l.Spells (Text.trim s)) :
    ofText type s =
      if isLost l ((format type).decode ((format type).ofLiteral l)) then
        .error (.outOfRange type (String.ofList (Text.trim s)))
      else .ok (.ofNat ((format type).convert double ((format type).ofLiteral l))) := by
  simp only [ofText, FloatFormat.special?_of_spells hl, DecimalLiteral.read?_eq_some_iff.mpr hl]
  rfl

/-- What a literal is read as, if it is rounded right. -/
theorem ofText_cases (hl : l.Spells (Text.trim s)) (hread : (format type).ReadsNearest l) :
    ((format type).IsOutOfRange l.toRat ∧
        ofText type s = .error (.outOfRange type (String.ofList (Text.trim s)))) ∨
      ¬(format type).IsOutOfRange l.toRat ∧
        ∃ x bits, ofText type s = .ok x ∧ (format type).IsNearest |l.toRat| bits ∧
          x.value.Denotes l.negative ((format type).magnitude bits) := by
  obtain ⟨bits, hbits, hnearest⟩ := hread
  have hlost : isLost l ((format type).decode ((format type).ofLiteral l)) ↔
      (format type).IsOutOfRange l.toRat := by
    have hiff (other : Nat) : bits = other ↔ (format type).IsNearest |l.toRat| other :=
      ⟨fun h => h ▸ hnearest, hnearest.unique⟩
    rw [hbits, isLost_iff hnearest.le, hiff, hiff, FloatFormat.IsOutOfRange]
  rw [ofText_of_spells hl]
  by_cases h : (format type).IsOutOfRange l.toRat
  · exact Or.inl ⟨h, if_pos (hlost.mpr h)⟩
  · refine Or.inr ⟨h, _, bits, if_neg (hlost.not.mpr h), hnearest, ?_⟩
    have hlt : bits < (format type).infinityBits :=
      lt_of_le_of_ne hnearest.le fun heq => h (Or.inl (heq ▸ hnearest))
    rw [hbits]
    exact Double.denotes_ofNat_convert (withinDouble_format type) hlt

end ofText

end FloatCodec

theorem Codec.ofText_float {type : WireType} (hkind : type.kind = .float) (ctx : Context)
    (s : List Char) :
    ofText type.kind type ctx s =
      liftM (FloatCodec.ofText type s) >>= fun v => pure (Value.float v) := by
  rw [hkind]
  rfl

theorem Registry.decodeText_float {type : WireType} (hkind : type.kind = .float) (r : Registry)
    (s : List Char) :
    r.decodeText type s = liftM (FloatCodec.ofText type s) >>= fun v => pure (Value.float v) :=
  (Codec.decode_ofText type r.context s).trans (Codec.ofText_float hkind r.context s)

/-- The doubles and the errors of a codec are those of the registry. -/
theorem Registry.decodeText_float_error_iff {type : WireType} (hkind : type.kind = .float)
    (r : Registry) {s : List Char} {e : CodecError} :
    r.decodeText type s = .error (.rejected e) ↔ FloatCodec.ofText type s = .error e := by
  rw [decodeText_float hkind, bind_pure_eq_error_iff, lift_eq_rejected_iff]

/-- A literal that is rounded right is out of range exactly if its number is. -/
theorem Registry.decodeText_float_outOfRange_iff {type : WireType} (hkind : type.kind = .float)
    (r : Registry) {s : List Char} {l : DecimalLiteral} (hl : l.Spells (Text.trim s))
    (hread : (FloatCodec.format type).ReadsNearest l) (text : String) :
    r.decodeText type s = .error (.rejected (.outOfRange type text)) ↔
      text = String.ofList (Text.trim s) ∧ (FloatCodec.format type).IsOutOfRange l.toRat := by
  rw [decodeText_float_error_iff hkind]
  rcases FloatCodec.ofText_cases hl hread with ⟨hlost, hout⟩ | ⟨hkept, x, bits, hok, -⟩
  · rw [hout]
    constructor
    · intro h
      cases h
      exact ⟨rfl, hlost⟩
    · rintro ⟨rfl, -⟩
      rfl
  · rw [hok]
    exact iff_of_false nofun fun h => hkept h.2

/-- A text that is no name of NaN or of an infinity is malformed exactly if it spells no literal. A
literal that is rounded right is out of range exactly if its number rounds to infinity, or to zero
and is not zero. Else it is read as the number nearest to its own, with its sign, also if that is
zero. Literals are rounded right, save some with an exponent of six digits beside tens of
thousands of others. -/
theorem Registry.decodeText_float_literal (r : Registry) {type : WireType}
    (hkind : type.kind = .float) {s : List Char}
    (hspecial : ¬FloatFormat.SpellsSpecial (Text.trim s)) :
    (∀ text, r.decodeText type s = .error (.rejected (.malformed type text)) ↔
        text = String.ofList s ∧ ∀ l : DecimalLiteral, ¬l.Spells (Text.trim s)) ∧
      ∀ l : DecimalLiteral, l.Spells (Text.trim s) →
        ((FloatCodec.format type).ReadsNearest l →
          (∀ text, r.decodeText type s = .error (.rejected (.outOfRange type text)) ↔
            text = String.ofList (Text.trim s) ∧
              (FloatCodec.format type).IsOutOfRange l.toRat) ∧
          (¬(FloatCodec.format type).IsOutOfRange l.toRat →
            ∃ x bits, r.decodeText type s = .ok (.float x) ∧
              (FloatCodec.format type).IsNearest |l.toRat| bits ∧
              x.value.Denotes l.negative ((FloatCodec.format type).magnitude bits))) ∧
        (Numeral.value l.exponentDigits < 655360 ∨ l.digits.length ≤ 65000 →
          (FloatCodec.format type).ReadsNearest l) := by
  refine ⟨fun text => ?_, fun l hl => ⟨fun hread =>
    ⟨decodeText_float_outOfRange_iff hkind r hl hread, fun hkept => ?_⟩, fun h =>
    FloatFormat.readsNearest (FloatCodec.withinDouble_format type) hl.isDigit_of_mem_digits h⟩⟩
  · rw [decodeText_float_error_iff hkind]
    constructor
    · intro h
      by_cases hliteral : ∃ l : DecimalLiteral, l.Spells (Text.trim s)
      · obtain ⟨l, hl⟩ := hliteral
        rw [FloatCodec.ofText_of_spells hl] at h
        split_ifs at h
        cases h
      · have hnone := not_exists.mp hliteral
        rw [FloatCodec.ofText_of_no_literal hspecial hnone] at h
        cases h
        exact ⟨rfl, hnone⟩
    · rintro ⟨rfl, hnone⟩
      exact FloatCodec.ofText_of_no_literal hspecial hnone
  · rcases FloatCodec.ofText_cases hl hread with ⟨hlost, -⟩ | ⟨-, x, bits, hok, hnearest, hdenotes⟩
    · exact absurd hlost hkept
    · refine ⟨x, bits, ?_, hnearest, hdenotes⟩
      rw [decodeText_float hkind, hok]
      rfl

/-- A number below half the least one of single precision, which is a double all the same. -/
theorem Registry.decodeText_float_literal_tiny :
    let r := standard .excerpt
    WireType.float4.kind = .float ∧ ¬FloatFormat.SpellsSpecial "-1.5e-50".toList ∧
      Text.trim " -1.5e-50\n".toList = "-1.5e-50".toList ∧
      r.decodeText .float4 " -1.5e-50\n".toList =
        .error (.rejected (.outOfRange .float4 "-1.5e-50")) ∧
      ∃ l : DecimalLiteral, l.Spells "-1.5e-50".toList ∧ FloatFormat.single.ReadsNearest l ∧
        FloatFormat.single.IsOutOfRange l.toRat := by
  intro r
  have htrim : Text.trim " -1.5e-50\n".toList = "-1.5e-50".toList := by decide
  have hspecial : ¬FloatFormat.SpellsSpecial "-1.5e-50".toList := by
    rw [← FloatFormat.special?_eq_none_iff]
    rfl
  have hl : DecimalLiteral.Spells ⟨true, ['1'], ['5'], true, ['5', '0']⟩ "-1.5e-50".toList :=
    DecimalLiteral.read?_eq_some_iff.mp rfl
  have hout : r.decodeText .float4 " -1.5e-50\n".toList =
      .error (.rejected (.outOfRange .float4 "-1.5e-50")) := by
    decide +kernel
  obtain ⟨-, hliteral⟩ := r.decodeText_float_literal
    (show WireType.float4.kind = .float from rfl) (htrim.symm ▸ hspecial)
  obtain ⟨hranged, hnearest⟩ := hliteral _ (htrim.symm ▸ hl)
  have hread := hnearest (Or.inl (by decide))
  exact ⟨rfl, hspecial, htrim, hout, _, hl, hread, (((hranged hread).1 _).mp hout).2⟩

end ScalarWire
