import ScalarWire.Proofs.Codec.Float
import ScalarWire.Zone.Excerpt

/-!
# Floating-point text read back

What is written for a double is read as the nearest number in the precision of the type, which in
double precision is the double itself. Zero keeps its sign, and NaN and the infinities stay what
they are. In single precision a number is refused if it would be infinite there.
-/

namespace ScalarWire

namespace FloatFormat

variable {f g : FloatFormat}

/-- NaN is NaN in every format, as its payload is never empty. -/
theorem decode_convert_nan (hg : g.WithinDouble) {bits : Nat} (h : f.decode bits = .nan) :
    g.decode (f.convert g bits) = .nan := by
  have hwidth : g.fractionBits - 1 < g.fractionBits :=
    Nat.sub_one_lt_of_le hg.one_le_fractionBits le_rfl
  have hpayload : bits % 2 ^ f.fractionBits * 2 ^ g.fractionBits / 2 ^ f.fractionBits <
      2 ^ g.fractionBits := by
    rw [Nat.div_lt_iff_lt_mul (Nat.two_pow_pos _), mul_comm]
    exact Nat.mul_lt_mul_of_pos_left (Nat.mod_lt _ (Nat.two_pow_pos _)) (Nat.two_pow_pos _)
  rw [convert, h]
  dsimp only
  generalize bits % 2 ^ f.fractionBits * 2 ^ g.fractionBits / 2 ^ f.fractionBits = payload at *
  have hquiet : 2 ^ (g.fractionBits - 1) ≤ payload ||| 2 ^ (g.fractionBits - 1) := Nat.right_le_or
  have hor : payload ||| 2 ^ (g.fractionBits - 1) < 2 ^ g.fractionBits :=
    Nat.or_lt_two_pow hpayload (Nat.pow_lt_pow_right (by decide) hwidth)
  have hpos := Nat.two_pow_pos (g.fractionBits - 1)
  have hsign : g.infinityBits + 2 ^ g.fractionBits = g.signBit := by
    rw [infinityBits, ← Nat.succ_mul, Nat.succ_eq_add_one,
      Nat.sub_add_cancel (Nat.one_le_two_pow), signBit, pow_add]
  refine decode_of_infinityBits_lt ?_
  rw [signed_mod (by omega)]
  omega

variable (f) in
/-- What a value becomes in the precision of a format that can hold it. -/
def IsRounding (v w : FloatValue) : Prop :=
  (v = .nan → w = .nan) ∧ (∀ negative, v = .infinite negative → w = .infinite negative) ∧
    ∀ negative x, v.Denotes negative x → ∃ bits < f.infinityBits,
      f.IsNearest x bits ∧ w.Denotes negative (f.magnitude bits)

theorem isRounding_nan : f.IsRounding .nan .nan := by
  refine ⟨fun _ => rfl, ?_, ?_⟩
  · rintro _ ⟨⟩
  · rintro _ _ ⟨_, _, ⟨⟩, _⟩

theorem isRounding_infinite (negative : Bool) :
    f.IsRounding (.infinite negative) (.infinite negative) := by
  refine ⟨?_, fun _ h => h, ?_⟩
  · rintro ⟨⟩
  · rintro _ _ ⟨_, _, ⟨⟩, _⟩

theorem isRounding_of_denotes {v w : FloatValue} {negative : Bool} {x : ℚ} {bits : Nat}
    (hv : v.Denotes negative x) (hlt : bits < f.infinityBits) (hnearest : f.IsNearest x bits)
    (hw : w.Denotes negative (f.magnitude bits)) : f.IsRounding v w := by
  obtain ⟨mantissa, exponent, rfl, rfl⟩ := hv
  refine ⟨?_, ?_, ?_⟩
  · rintro ⟨⟩
  · rintro _ ⟨⟩
  · rintro _ _ ⟨_, _, ⟨⟩, rfl⟩
    exact ⟨bits, hlt, hnearest, hw⟩

end FloatFormat

namespace Double

open FloatFormat

variable {v w : Double} {negative : Bool}

theorem eq_of_infinite (h : v.value = .infinite negative) :
    v = ofNat (double.signed negative double.infinityBits) := by
  rcases v.value_cases with ⟨sign, bits, hlt, rfl⟩ | ⟨sign, rfl⟩ | hnan
  · rw [value, toNat_ofNat_signed hlt.le, decode_signed hlt] at h
    cases h
  · rw [value_ofNat_infinityBits] at h
    cases h
    rfl
  · rw [hnan] at h
    cases h

/-- In double precision nothing is rounded. -/
theorem eq_of_isRounding (h : double.IsRounding v.value w.value) (hnan : v.value ≠ .nan) :
    w = v := by
  obtain ⟨-, hinfinite, hnumber⟩ := h
  rcases hv : v.value with - | negative | ⟨negative, mantissa, exponent⟩
  · exact absurd hv hnan
  · rw [eq_of_infinite hv, eq_of_infinite (hinfinite negative hv)]
  · have hdenotes : v.value.Denotes negative (mantissa * 2 ^ exponent) := ⟨_, _, hv, rfl⟩
    obtain ⟨bits, hlt, hnearest, hw⟩ := hnumber _ _ hdenotes
    obtain ⟨wide, hwide, -, hx⟩ := exists_of_denotes hdenotes
    rw [hx] at hnearest hdenotes
    rw [hnearest.unique (isNearest_magnitude hwide.le)] at hw
    exact eq_of_denotes hw hdenotes

end Double

namespace FloatCodec

open FloatFormat (single double)

variable {type : WireType} {v : Double}

theorem isFinite_decode_signed {f : FloatFormat} {bits : Nat} (h : bits ≤ f.infinityBits)
    (negative : Bool) :
    isFinite (f.decode (f.signed negative bits)) = !decide (bits = f.infinityBits) := by
  rcases h.lt_or_eq with hlt | rfl
  · rw [FloatFormat.decode_signed hlt, decide_eq_false hlt.ne]
    rfl
  · rw [FloatFormat.decode_signed_infinityBits, decide_eq_true rfl]
    rfl

/-- A number is rounded to the precision of the type, and refused if that makes it infinite. -/
theorem exists_narrow_of_denotes (type : WireType) {negative : Bool} {x : ℚ}
    (hv : v.value.Denotes negative x) :
    ∃ bits, (format type).IsNearest x bits ∧
      narrow type v =
        if bits = (format type).infinityBits then
          .error (.outOfRange type (String.ofList v.display))
        else .ok ((format type).signed negative bits) := by
  obtain ⟨wide, hwide, rfl, rfl⟩ := Double.exists_of_denotes hv
  have hwideBits : (Double.ofNat (double.signed negative wide)).toNat = _ :=
    Double.toNat_ofNat_signed hwide.le
  by_cases htype : type = .float4
  · subst htype
    obtain ⟨bits, hconvert, hnearest⟩ :=
      FloatFormat.exists_convert_signed FloatFormat.withinDouble_single hwide negative
    refine ⟨bits, hnearest, ?_⟩
    rw [narrow, if_pos rfl, Double.value, Double.toSingle, hwideBits, hconvert,
      isFinite_decode_signed hwide.le, isFinite_decode_signed hnearest.le,
      decide_eq_false hwide.ne, Bool.not_not]
    simp only [Bool.not_false, Bool.true_and, decide_eq_true_eq]
    rfl
  · refine ⟨wide, ?_, ?_⟩
    · rw [format, if_neg htype]
      exact FloatFormat.isNearest_magnitude hwide.le
    · rw [narrow, if_neg htype, format, if_neg htype, if_neg hwide.ne, hwideBits]
      rfl

theorem narrow_of_not_finite (h : isFinite v.value = false) :
    narrow type v = .ok (if type = .float4 then v.toSingle else v.toNat) := by
  rw [narrow, h, Bool.false_and, if_neg Bool.false_ne_true]
  split_ifs <;> rfl

theorem narrow_of_infinite {negative : Bool} (hv : v.value = .infinite negative) :
    narrow type v = .ok ((format type).signed negative (format type).infinityBits) := by
  rw [narrow_of_not_finite (by rw [hv]; rfl), format, Double.toSingle, Double.eq_of_infinite hv,
    Double.toNat_ofNat_signed le_rfl, FloatFormat.convert_signed_infinityBits]
  split_ifs <;> rfl

theorem exists_narrow_of_nan (type : WireType) (hv : v.value = .nan) :
    ∃ bits, narrow type v = .ok bits ∧ (format type).decode bits = .nan := by
  refine ⟨_, narrow_of_not_finite (by rw [hv]; rfl), ?_⟩
  rw [format]
  split_ifs
  · exact FloatFormat.decode_convert_nan FloatFormat.withinDouble_single hv
  · exact hv

/-- What is written for a number is read as the number that it was rounded to. -/
theorem exists_ofText_toText_signed {bits : Nat} (h : bits < (format type).infinityBits)
    (negative : Bool) :
    ∃ w, ofText type ((format type).toText ((format type).signed negative bits)) = .ok w ∧
      w.value.Denotes negative ((format type).magnitude bits) := by
  have hf := withinDouble_format type
  obtain ⟨l, hspells, hread, hzero⟩ := FloatFormat.exists_spells_toText hf h negative
  refine ⟨_, ?_, Double.denotes_ofNat_convert hf h⟩
  have hkept : ¬isLost l ((format type).decode ((format type).signed negative bits)) := by
    rw [isLost_iff h.le]
    rintro (heq | ⟨hne, hbits⟩)
    · exact h.ne heq
    · exact hne (hzero hbits)
  rw [ofText_of_spells (hspells.trim_eq.symm ▸ hspells), hread, if_neg hkept]

/-- Whatever is written is read as the value that it is in the precision of the type. -/
theorem exists_ofText_of_narrow {bits : Nat} (h : narrow type v = .ok bits) :
    ∃ w, ofText type ((format type).toText bits) = .ok w ∧
      (format type).IsRounding v.value w.value := by
  rcases hv : v.value with - | negative | ⟨negative, mantissa, exponent⟩
  · obtain ⟨nan, hnarrow, hdecode⟩ := exists_narrow_of_nan type hv
    obtain rfl := Except.ok.inj (hnarrow.symm.trans h)
    rw [FloatFormat.toText, hdecode]
    exact ⟨.ofNat 0x7ff8000000000000, rfl, FloatFormat.isRounding_nan⟩
  · obtain rfl := Except.ok.inj ((narrow_of_infinite hv).symm.trans h)
    rw [FloatFormat.toText, FloatFormat.decode_signed_infinityBits]
    refine ⟨.ofNat (double.signed negative double.infinityBits), ?_, ?_⟩
    · cases negative <;> rfl
    · rw [Double.value_ofNat_infinityBits]
      exact FloatFormat.isRounding_infinite negative
  · have hdenotes : v.value.Denotes negative (mantissa * 2 ^ exponent) := ⟨_, _, hv, rfl⟩
    obtain ⟨nearest, hnearest, hnarrow⟩ := exists_narrow_of_denotes type hdenotes
    rw [hnarrow] at h
    split_ifs at h with hinfinite
    cases h
    have hlt := lt_of_le_of_ne hnearest.le hinfinite
    obtain ⟨w, hread, hw⟩ := exists_ofText_toText_signed hlt negative
    exact ⟨w, hread, hv ▸ FloatFormat.isRounding_of_denotes hdenotes hlt hnearest hw⟩

end FloatCodec

/-- The payload of a pattern in the precision of a type. -/
def FloatCodec.payload (type : WireType) : Format → Nat → Payload
  | .text, bits => .ofText ((format type).toText bits)
  | .binary, bits => .ofBytes (BigEndian.encode (if type = .float4 then 4 else 8) bits)

/-- In either format a double is brought to the precision of the type, and what comes of it is
written. -/
theorem Codec.encode_float {type : WireType} (hkind : type.kind = .float) (v : Double)
    (format : Format) :
    encode type (.float v) format =
      FloatCodec.narrow type v >>= fun bits => pure (FloatCodec.payload type format bits) := by
  have hv : (Value.float v).belongsTo type := beq_iff_eq.mpr hkind.symm
  cases format with
  | text =>
      rw [encode, if_pos hv, hkind]
      change (FloatCodec.toText type v >>= fun s => pure (Payload.ofText s)) = _
      rw [FloatCodec.toText]
      cases FloatCodec.narrow type v <;> rfl
  | binary =>
      rw [encode, if_pos hv, hkind]
      change (FloatCodec.toBytes type v >>= fun bytes => pure (Payload.ofBytes bytes)) = _
      rw [FloatCodec.toBytes]
      cases FloatCodec.narrow type v <;> rfl

/-- The text of a double is read as what the double is in the precision of the type: the number
nearest to it, with its sign, or the same infinity, or NaN. In double precision it is read as the
same double, save that a NaN may have another payload. -/
theorem Registry.decode_encode_float (r other : Registry) {type : WireType}
    (hkind : type.kind = .float) {v : Double} {p : Payload}
    (h : r.encode type (.float v) .text = .ok p) :
    ∃ w, other.decode type p = .ok (.float w) ∧
      (FloatCodec.format type).IsRounding v.value w.value ∧
      (type = .float8 → v.value ≠ .nan → w = v) := by
  rw [Registry.encode, Codec.encode_float hkind, bind_pure_eq_ok_iff] at h
  obtain ⟨bits, hnarrow, rfl⟩ := h
  obtain ⟨w, hread, hw⟩ := FloatCodec.exists_ofText_of_narrow hnarrow
  refine ⟨w, ?_, hw, ?_⟩
  · change other.decodeText type _ = _
    rw [decodeText_float hkind, hread]
    rfl
  · rintro rfl hnan
    exact Double.eq_of_isRounding hw hnan

/-- Minus half the least number of single precision is written as a zero, whose sign stays. -/
theorem Registry.decode_encode_float_minus_zero :
    let r := standard .excerpt
    let v := Double.ofNat 0xb690000000000000
    ∃ p, r.encode .float4 (.float v) .text = .ok p ∧
      ∃ w, r.decode .float4 p = .ok (.float w) ∧
        FloatFormat.single.IsRounding v.value w.value ∧ w = .ofNat 0x8000000000000000 := by
  intro r
  have h : r.encode .float4 (.float (Double.ofNat 0xb690000000000000)) .text =
      .ok (.ofText "-0".toList) := by
    decide +kernel
  obtain ⟨w, hread, hrounding, -⟩ := decode_encode_float r r rfl h
  refine ⟨_, h, w, hread, hrounding, ?_⟩
  have hzero : r.decode .float4 (.ofText "-0".toList) =
      .ok (.float (.ofNat 0x8000000000000000)) := by
    decide +kernel
  cases hread.symm.trans hzero
  rfl

end ScalarWire
