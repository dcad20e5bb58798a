import ScalarWire.Proofs.Codec.FloatRoundTrip
import ScalarWire.Zone.Excerpt

/-!
# The range of single precision

Reading in single precision refuses a number that rounds to infinity there, and one that rounds to
zero without being zero. Writing refuses only the first of them, in either format: a double too
small for single precision is written as a zero and nothing is said.
-/

namespace ScalarWire

open FloatFormat (single double)

/-- A text without an exponent that spells exactly this number, with this sign. -/
def IsExactText (negative : Bool) (x : ℚ) (s : List Char) : Prop :=
  ∃ l : DecimalLiteral, l.Spells s ∧ l.exponentDigits = [] ∧ l.negative = negative ∧ |l.toRat| = x

/-- Every number of a binary format can be written out in decimal digits. -/
theorem FloatValue.Denotes.exists_isExactText {v : FloatValue} {negative : Bool} {x : ℚ}
    (h : v.Denotes negative x) : ∃ s, IsExactText negative x s := by
  obtain ⟨mantissa, exponent, -, rfl⟩ := h
  have hvalue : (mantissa * 2 ^ exponent : ℚ) =
      (mantissa * 2 ^ exponent.toNat * 5 ^ (-exponent).toNat : Nat) *
        10 ^ (-(-exponent).toNat : Int) := by
    obtain ⟨n, rfl | rfl⟩ := exponent.eq_nat_or_neg
    · simp
    · have hten : (10 : ℚ) ^ n = 2 ^ n * 5 ^ n := by rw [← mul_pow]; norm_num
      simp only [Int.toNat_neg_natCast, neg_neg, Int.toNat_natCast, pow_zero, mul_one, zpow_neg,
        zpow_natCast, hten]
      push_cast
      field_simp
  obtain ⟨l, hspells, hnegative, hrat, hexponent⟩ := FloatFormat.exists_spells_positional
    (Numeral.digits_ne_nil (mantissa * 2 ^ exponent.toNat * 5 ^ (-exponent).toNat))
    Numeral.isDigit_of_mem_digits negative (-(-exponent).toNat)
  rw [Numeral.value_digits, ← hvalue] at hrat
  exact ⟨_, l, hspells, hexponent, hnegative, hrat⟩

namespace Registry

variable {v : Double} {negative : Bool} {x : ℚ}

/-- An exact text is refused exactly if single precision loses the number. -/
theorem decodeText_isExactText (r : Registry) {s : List Char} (h : IsExactText negative x s)
    {text : String} :
    r.decodeText .float4 s = .error (.rejected (.outOfRange .float4 text)) ↔
      text = String.ofList s ∧ single.IsOutOfRange x := by
  obtain ⟨l, hspells, hexponent, -, rfl⟩ := h
  have hread : single.ReadsNearest l := by
    refine FloatFormat.readsNearest FloatFormat.withinDouble_single hspells.isDigit_of_mem_digits ?_
    left
    rw [hexponent]
    decide
  have hiff := r.decodeText_float_outOfRange_iff (show WireType.float4.kind = .float from rfl)
    (hspells.trim_eq.symm ▸ hspells) hread text
  rw [hspells.trim_eq] at hiff
  rw [hiff, FloatFormat.IsOutOfRange, FloatFormat.IsOutOfRange, abs_abs, abs_ne_zero]
  rfl

/-- A double is refused in either format exactly if it would be infinite in single precision. -/
theorem encode_float4_outOfRange_iff (r : Registry) (hv : v.value.Denotes negative x)
    (format : Format) {text : String} :
    r.encode .float4 (.float v) format = .error (.outOfRange .float4 text) ↔
      text = String.ofList v.display ∧ single.IsNearest x single.infinityBits := by
  obtain ⟨bits, hnearest, hnarrow⟩ := FloatCodec.exists_narrow_of_denotes .float4 hv
  have hinfinite : bits = single.infinityBits ↔ single.IsNearest x single.infinityBits :=
    ⟨fun h => h ▸ hnearest, hnearest.unique⟩
  rw [encode, Codec.encode_float rfl, bind_pure_eq_error_iff, hnarrow, ← hinfinite]
  change (if bits = single.infinityBits then _ else _) = _ ↔ _
  split_ifs with h
  · constructor
    · intro heq
      cases heq
      exact ⟨rfl, h⟩
    · rintro ⟨rfl, -⟩
      rfl
  · refine iff_of_false ?_ fun heq => h heq.2
    rintro ⟨⟩

/-- A double that rounds to zero is written as the zero of its sign. -/
theorem encode_float4_of_isNearest_zero (r : Registry) (hv : v.value.Denotes negative x)
    (hzero : single.IsNearest x 0) (format : Format) :
    r.encode .float4 (.float v) format =
      .ok (FloatCodec.payload .float4 format (single.signed negative 0)) := by
  obtain ⟨bits, hnearest, hnarrow⟩ := FloatCodec.exists_narrow_of_denotes .float4 hv
  obtain rfl := hnearest.unique hzero
  rw [encode, Codec.encode_float rfl, hnarrow]
  rfl

/-- Reading refuses the exact text of a double exactly if single precision loses the number, to
infinity or to zero. Writing refuses the double in either format exactly if the loss is to
infinity, and writes a number that is lost to zero as the zero of its sign. So the two sides refuse
the same doubles, save those that vanish. -/
theorem float4_range (r other : Registry) (hv : v.value.Denotes negative x) :
    (∃ s, IsExactText negative x s) ∧
      (∀ s text, IsExactText negative x s →
        (other.decodeText .float4 s = .error (.rejected (.outOfRange .float4 text)) ↔
          text = String.ofList s ∧
            (single.IsNearest x single.infinityBits ∨ x ≠ 0 ∧ single.IsNearest x 0))) ∧
      (∀ format text,
        r.encode .float4 (.float v) format = .error (.outOfRange .float4 text) ↔
          text = String.ofList v.display ∧ single.IsNearest x single.infinityBits) ∧
      (x ≠ 0 → single.IsNearest x 0 →
        r.encode .float4 (.float v) .text = .ok (.ofText (FloatFormat.minus negative ++ ['0'])) ∧
        r.encode .float4 (.float v) .binary =
          .ok (.ofBytes [if negative then 0x80 else 0, 0, 0, 0])) := by
  have hx : |x| = x := by
    obtain ⟨mantissa, exponent, -, rfl⟩ := hv
    exact abs_of_nonneg (by positivity)
  refine ⟨hv.exists_isExactText, fun s text hs => ?_,
    fun format text => encode_float4_outOfRange_iff r hv format, fun _ hzero => ⟨?_, ?_⟩⟩
  · rw [decodeText_isExactText other hs, FloatFormat.IsOutOfRange, hx]
  · rw [encode_float4_of_isNearest_zero r hv hzero]
    cases negative <;> rfl
  · rw [encode_float4_of_isNearest_zero r hv hzero]
    cases negative <;> rfl

/-- The double halfway between the greatest number of single precision and the next power of two,
which an even mantissa would belong to. -/
theorem float4_range_halfway :
    let r := standard .excerpt
    let v := Double.ofNat 0x47effffff0000000
    let text := "340282356779733661637539395458142568448".toList
    v.value.Denotes false 340282356779733661637539395458142568448 ∧
      IsExactText false 340282356779733661637539395458142568448 text ∧
      r.decodeText .float4 text =
        .error (.rejected (.outOfRange .float4 (String.ofList text))) ∧
      ∀ format, r.encode .float4 (.float v) format =
        .error (.outOfRange .float4 "340282356779733660000000000000000000000") := by
  intro r v text
  have hv : v.value.Denotes false 340282356779733661637539395458142568448 :=
    ⟨0x1ffffff0000000, 75, by decide +kernel, by norm_num⟩
  have hl : DecimalLiteral.Spells ⟨false, text, [], false, []⟩ text :=
    DecimalLiteral.read?_eq_some_iff.mp rfl
  have hexact : IsExactText false 340282356779733661637539395458142568448 text := by
    have hvalue : Numeral.value text = 340282356779733661637539395458142568448 := by
      decide +kernel
    refine ⟨_, hl, rfl, rfl, ?_⟩
    rw [DecimalLiteral.abs_toRat, DecimalLiteral.digits, List.append_nil, hvalue]
    change ((340282356779733661637539395458142568448 : Nat) : ℚ) * 10 ^ (0 : Int) = _
    norm_num
  have hout : r.encode .float4 (.float v) .text =
      .error (.outOfRange .float4 "340282356779733660000000000000000000000") := by
    decide +kernel
  obtain ⟨-, hread, hwrite, -⟩ := float4_range r r hv
  obtain ⟨hdisplay, hinfinite⟩ := (hwrite .text _).mp hout
  exact ⟨hv, hexact, (hread _ _ hexact).mpr ⟨rfl, Or.inl hinfinite⟩,
    fun format => (hwrite format _).mpr ⟨hdisplay, hinfinite⟩⟩

/-- The double nearest to the fiftieth power of a tenth is written in either format, as zero, and
its own text is refused. -/
theorem encode_float4_vanishing :
    let r := standard .excerpt
    let v := Double.ofNat 0x358dee7a4ad4b81f
    ∃ x s, v.value.Denotes false x ∧ IsExactText false x s ∧
      r.decodeText .float4 s =
        .error (.rejected (.outOfRange .float4 (String.ofList s))) ∧
      r.encode .float4 (.float v) .text = .ok (.ofText "0".toList) ∧
      r.encode .float4 (.float v) .binary = .ok (.ofBytes [0, 0, 0, 0]) := by
  intro r v
  have hv : v.value.Denotes false (0x1dee7a4ad4b81f * 2 ^ (-219 : Int)) :=
    ⟨0x1dee7a4ad4b81f, -219, by decide +kernel, by norm_num⟩
  obtain ⟨s, hs⟩ := hv.exists_isExactText
  have hunit : single.unit 0 = 2 ^ (-149 : Int) := rfl
  have hzero : single.IsNearest (0x1dee7a4ad4b81f * 2 ^ (-219 : Int)) 0 := by
    refine FloatFormat.isNearest_zero (by positivity) ?_
    rw [hunit]
    norm_num
  have hlost : single.IsOutOfRange (0x1dee7a4ad4b81f * 2 ^ (-219 : Int)) := by
    refine Or.inr ⟨by norm_num, ?_⟩
    rw [abs_of_nonneg (by positivity)]
    exact hzero
  exact ⟨_, s, hv, hs, (decodeText_isExactText r hs).mpr ⟨rfl, hlost⟩,
    encode_float4_of_isNearest_zero r hv hzero .text,
    encode_float4_of_isNearest_zero r hv hzero .binary⟩

end Registry

end ScalarWire
