import ScalarWire.Proofs.Codec.Typing
import ScalarWire.Proofs.Number.Integer
import ScalarWire.Zone.Excerpt

/-!
# Integers within their bounds

The bounds of an integer type are those of its words. A text is read as the integer that it spells
if this lies within the bounds, is out of range if it spells another one, and is malformed if it
spells none. Both formats hold every integer within the bounds and no other.
-/

namespace ScalarWire

open Numeral (SpellsInteger)

namespace IntegerCodec

variable {type : WireType} {least greatest : Int}

/-- The bounds of a type are the ends of its words, which are at most eight bytes wide. -/
theorem exists_width (hbounds : type.integerBounds? = some (least, greatest)) :
    ∃ width, width? type = some width ∧ width ≤ 8 ∧
      2 * least = -256 ^ width ∧ 2 * (greatest + 1) = 256 ^ width := by
  cases type with
  | int2 | int4 | int8 =>
      obtain ⟨rfl, rfl⟩ := Prod.mk.inj (Option.some.inj hbounds)
      exact ⟨_, rfl, by decide, by decide, by decide⟩
  | numeric | float4 | float8 | bool | char | varchar => cases hbounds
  | date | timestamp | timestamptz | time | timetz => cases hbounds

/-- Bounds of a type lie within a word of 64 bits. -/
theorem bounds_in_word (hbounds : type.integerBounds? = some (least, greatest)) :
    -2 ^ 63 ≤ least ∧ greatest < 2 ^ 63 := by
  obtain ⟨width, -, hwidth, hleast, hgreatest⟩ := exists_width hbounds
  have hpow : (256 : Int) ^ width ≤ 256 ^ 8 := pow_le_pow_right₀ (by decide) hwidth
  omega

theorem toInt_ofInt {n : Int} (hbounds : type.integerBounds? = some (least, greatest))
    (hlow : least ≤ n) (hhigh : n ≤ greatest) : (Int64.ofInt n).toInt = n := by
  obtain ⟨hleast, hgreatest⟩ := bounds_in_word hbounds
  exact Int64.toInt_ofInt_of_le (hleast.trans hlow) (hhigh.trans_lt hgreatest)

section checkBounds

variable {v : Int64} (hbounds : type.integerBounds? = some (least, greatest))
include hbounds

theorem checkBounds_of_le (hlow : least ≤ v.toInt) (hhigh : v.toInt ≤ greatest) :
    checkBounds type v = .ok v := by
  simp only [checkBounds, hbounds]
  exact if_neg (by omega)

theorem checkBounds_of_not_le (h : v.toInt < least ∨ greatest < v.toInt) :
    checkBounds type v = .error (.outOfRange type (Numeral.ofInt v.toInt)) := by
  simp only [checkBounds, hbounds]
  exact if_pos h

end checkBounds

/-- The words in which an integer is reported out of range: those of the text if no word of 64 bits
holds it. -/
def rangeText (s : List Char) (n : Int) : String :=
  if n < -0x8000000000000000 ∨ 0x8000000000000000 ≤ n then String.ofList (Text.trim s)
  else Numeral.ofInt n

section ofText

variable {s : List Char} {n : Int}

theorem ofText_of_le (hbounds : type.integerBounds? = some (least, greatest))
    (hs : SpellsInteger n (Text.trim s)) (hlow : least ≤ n) (hhigh : n ≤ greatest) :
    ofText type s = .ok (Int64.ofInt n) := by
  obtain ⟨hleast, hgreatest⟩ := bounds_in_word hbounds
  have hn := toInt_ofInt hbounds hlow hhigh
  simp only [ofText, Numeral.readSigned?_eq_some_iff.mpr hs]
  rw [if_neg (by omega), checkBounds_of_le hbounds (by omega) (by omega)]

theorem ofText_of_not_le (hbounds : type.integerBounds? = some (least, greatest))
    (hs : SpellsInteger n (Text.trim s)) (h : n < least ∨ greatest < n) :
    ofText type s = .error (.outOfRange type (rangeText s n)) := by
  simp only [ofText, rangeText, Numeral.readSigned?_eq_some_iff.mpr hs]
  split_ifs with hword
  · rfl
  · have hn : (Int64.ofInt n).toInt = n := Int64.toInt_ofInt_of_le (by omega) (by omega)
    rw [checkBounds_of_not_le hbounds (by omega), hn]

theorem ofText_of_no_integer (h : ∀ n, ¬SpellsInteger n (Text.trim s)) :
    ofText type s = .error (.malformed type (String.ofList s)) := by
  simp only [ofText, Numeral.readSigned?_eq_none_iff.mpr h]
  rfl

/-- A text spells an integer within the bounds, or one beyond them, or none. -/
theorem ofText_cases (hbounds : type.integerBounds? = some (least, greatest)) (s : List Char) :
    (∃ v : Int64, (SpellsInteger v.toInt (Text.trim s) ∧ least ≤ v.toInt ∧ v.toInt ≤ greatest) ∧
        ofText type s = .ok v) ∨
      (∃ n, (SpellsInteger n (Text.trim s) ∧ (n < least ∨ greatest < n)) ∧
        ofText type s = .error (.outOfRange type (rangeText s n))) ∨
      (∀ n, ¬SpellsInteger n (Text.trim s)) ∧
        ofText type s = .error (.malformed type (String.ofList s)) := by
  by_cases h : ∃ n, SpellsInteger n (Text.trim s)
  · obtain ⟨n, hs⟩ := h
    by_cases hout : n < least ∨ greatest < n
    · exact Or.inr (Or.inl ⟨n, ⟨hs, hout⟩, ofText_of_not_le hbounds hs hout⟩)
    · have hn := toInt_ofInt hbounds (n := n) (by omega) (by omega)
      refine Or.inl ⟨Int64.ofInt n, ⟨hn.symm ▸ hs, by omega, by omega⟩, ?_⟩
      exact ofText_of_le hbounds hs (by omega) (by omega)
  · exact Or.inr (Or.inr ⟨not_exists.mp h, ofText_of_no_integer (not_exists.mp h)⟩)

theorem ofText_eq_ok_iff (hbounds : type.integerBounds? = some (least, greatest)) {v : Int64} :
    ofText type s = .ok v ↔
      SpellsInteger v.toInt (Text.trim s) ∧ least ≤ v.toInt ∧ v.toInt ≤ greatest := by
  constructor
  · intro h
    rcases ofText_cases hbounds s with ⟨w, hw, hread⟩ | ⟨n, -, hread⟩ | ⟨-, hread⟩
    · obtain rfl := Except.ok.inj (hread.symm.trans h)
      exact hw
    · exact nomatch hread.symm.trans h
    · exact nomatch hread.symm.trans h
  · rintro ⟨hs, hlow, hhigh⟩
    rw [ofText_of_le hbounds hs hlow hhigh, Int64.ofInt_toInt]

theorem ofText_eq_outOfRange_iff (hbounds : type.integerBounds? = some (least, greatest))
    {text : String} :
    ofText type s = .error (.outOfRange type text) ↔
      ∃ n, SpellsInteger n (Text.trim s) ∧ (n < least ∨ greatest < n) ∧ text = rangeText s n := by
  constructor
  · intro h
    rcases ofText_cases hbounds s with ⟨v, -, hread⟩ | ⟨n, ⟨hs, hout⟩, hread⟩ | ⟨-, hread⟩
    · exact nomatch hread.symm.trans h
    · cases hread.symm.trans h
      exact ⟨n, hs, hout, rfl⟩
    · exact nomatch hread.symm.trans h
  · rintro ⟨n, hs, hout, rfl⟩
    exact ofText_of_not_le hbounds hs hout

theorem ofText_eq_malformed_iff (hbounds : type.integerBounds? = some (least, greatest)) :
    ofText type s = .error (.malformed type (String.ofList s)) ↔
      ∀ n, ¬SpellsInteger n (Text.trim s) := by
  refine ⟨fun h => ?_, ofText_of_no_integer⟩
  rcases ofText_cases hbounds s with ⟨v, -, hread⟩ | ⟨n, -, hread⟩ | ⟨hnone, -⟩
  · exact nomatch hread.symm.trans h
  · exact nomatch hread.symm.trans h
  · exact hnone

/-- What is written for an integer within the bounds is read as that integer. -/
theorem ofText_signed {v : Int64} (hbounds : type.integerBounds? = some (least, greatest))
    (hlow : least ≤ v.toInt) (hhigh : v.toInt ≤ greatest) :
    ofText type (Numeral.signed v.toInt) = .ok v := by
  have hspells := Numeral.spellsInteger_signed v.toInt
  exact (ofText_eq_ok_iff hbounds).mpr ⟨hspells.trim_eq.symm ▸ hspells, hlow, hhigh⟩

end ofText

section binary

/-- An integer within the bounds is read from its word. -/
theorem exists_toBytes_ofBytes {v : Int64} (hbounds : type.integerBounds? = some (least, greatest))
    (hlow : least ≤ v.toInt) (hhigh : v.toInt ≤ greatest) :
    ∃ bytes, toBytes type v = .ok bytes ∧ ofBytes type bytes = .ok v := by
  obtain ⟨width, hwidth, -, hleast, hgreatest⟩ := exists_width hbounds
  refine ⟨BigEndian.encode width v.toInt, ?_, ?_⟩
  · rw [toBytes, checkBounds_of_le hbounds hlow hhigh, hwidth]
    rfl
  · rw [ofBytes, hwidth, BigEndian.length_encode, if_pos rfl,
      BigEndian.signed_encode (by omega) (by omega), Int64.ofInt_toInt]
    rfl

/-- A word of the type is the one that is written for its number. -/
theorem exists_ofBytes_toBytes {bytes : List UInt8}
    (hbounds : type.integerBounds? = some (least, greatest))
    (hbytes : width? type = some bytes.length) :
    ∃ v, ofBytes type bytes = .ok v ∧ toBytes type v = .ok bytes := by
  obtain ⟨width, hwidth, -, hleast, hgreatest⟩ := exists_width hbounds
  obtain rfl : width = bytes.length := Option.some.inj (hwidth.symm.trans hbytes)
  have hlow := BigEndian.neg_le_two_mul_signed bytes
  have hhigh := BigEndian.two_mul_signed_lt bytes
  have hn : (Int64.ofInt (BigEndian.signed bytes)).toInt = BigEndian.signed bytes :=
    toInt_ofInt hbounds (by omega) (by omega)
  refine ⟨Int64.ofInt (BigEndian.signed bytes), ?_, ?_⟩
  · rw [ofBytes, if_pos hbytes]
    rfl
  · rw [toBytes, checkBounds_of_le hbounds (by omega) (by omega), hbytes]
    change Except.ok
      (BigEndian.encode bytes.length (Int64.ofInt (BigEndian.signed bytes)).toInt) = _
    rw [hn, BigEndian.encode_signed]

end binary

end IntegerCodec

theorem WireType.kind_of_integerBounds {type : WireType} {least greatest : Int}
    (hbounds : type.integerBounds? = some (least, greatest)) : type.kind = .integer := by
  cases type with
  | int2 | int4 | int8 => rfl
  | numeric | float4 | float8 | bool | char | varchar => cases hbounds
  | date | timestamp | timestamptz | time | timetz => cases hbounds

namespace Codec

variable {type : WireType} {least greatest : Int}

theorem ofText_integer (hkind : type.kind = .integer) (ctx : Context) (s : List Char) :
    ofText type.kind type ctx s =
      liftM (IntegerCodec.ofText type s) >>= fun v => pure (Value.integer v) := by
  rw [hkind]
  rfl

/-- An integer within the bounds is written in either format and read from what was written. -/
theorem exists_encode_decode_integer {v : Int64}
    (hbounds : type.integerBounds? = some (least, greatest)) (hlow : least ≤ v.toInt)
    (hhigh : v.toInt ≤ greatest) (format : Format) :
    ∃ p, encode type (.integer v) format = .ok p ∧ p.format = format ∧
      ∀ ctx, decode type ctx p = .ok (.integer v) := by
  have hkind := WireType.kind_of_integerBounds hbounds
  have hv : (Value.integer v).belongsTo type := beq_iff_eq.mpr hkind.symm
  cases format with
  | text =>
      have hwrite : toText type.kind type (.integer v) = .ok (Numeral.signed v.toInt) := by
        rw [hkind]
        change IntegerCodec.toText type v = _
        rw [IntegerCodec.toText, IntegerCodec.checkBounds_of_le hbounds hlow hhigh]
        rfl
      have hread := IntegerCodec.ofText_signed hbounds hlow hhigh
      refine ⟨_, encode_text_of_toText hv hwrite, rfl, fun ctx => ?_⟩
      rw [decode_ofText, ofText_integer hkind, hread]
      rfl
  | binary =>
      obtain ⟨bytes, hwrite, hread⟩ := IntegerCodec.exists_toBytes_ofBytes hbounds hlow hhigh
      refine ⟨.ofBytes bytes, encode_binary_of_toBytes hv ?_, rfl, decode_ofBytes ?_⟩
      · rw [hkind]
        exact hwrite
      · rw [hkind]
        exact bind_eq_of_ok hread

theorem encode_integer_of_not_le {v : Int64}
    (hbounds : type.integerBounds? = some (least, greatest))
    (h : v.toInt < least ∨ greatest < v.toInt) (format : Format) :
    encode type (.integer v) format = .error (.outOfRange type (Numeral.ofInt v.toInt)) := by
  have hkind := WireType.kind_of_integerBounds hbounds
  have hv : (Value.integer v).belongsTo type := beq_iff_eq.mpr hkind.symm
  have hcheck := IntegerCodec.checkBounds_of_not_le hbounds h
  cases format with
  | text =>
      rw [encode, if_pos hv, hkind]
      change (IntegerCodec.toText type v >>= fun s => pure (Payload.ofText s)) = _
      rw [IntegerCodec.toText, hcheck]
      rfl
  | binary =>
      rw [encode, if_pos hv, hkind]
      change (IntegerCodec.toBytes type v >>= fun bytes => pure (Payload.ofBytes bytes)) = _
      rw [IntegerCodec.toBytes, hcheck]
      rfl

/-- Whatever fills a word of an integer type is read, and written as the same bytes. -/
theorem exists_decode_encode_integer {bytes : List UInt8}
    (hbounds : type.integerBounds? = some (least, greatest))
    (hbytes : IntegerCodec.width? type = some bytes.length) (ctx : Context) :
    ∃ v, decode type ctx (.ofBytes bytes) = .ok (.integer v) ∧
      encode type (.integer v) .binary = .ok (.ofBytes bytes) := by
  have hkind := WireType.kind_of_integerBounds hbounds
  obtain ⟨v, hread, hwrite⟩ := IntegerCodec.exists_ofBytes_toBytes hbounds hbytes
  refine ⟨v, decode_ofBytes ?_ ctx, encode_binary_of_toBytes (beq_iff_eq.mpr hkind.symm) ?_⟩
  · rw [hkind]
    exact bind_eq_of_ok hread
  · rw [hkind]
    exact hwrite

end Codec

namespace Registry

/-- An integer type reads the texts that spell an integer within its bounds, finds those out of
range that spell another one, and all other texts malformed. It writes the integers within its
bounds in either format, reads them again, and refuses all others. Whatever fills its word is a
number that is written as the same bytes. -/
theorem integer_within_bounds (r : Registry) {type : WireType} {least greatest : Int}
    (hbounds : type.integerBounds? = some (least, greatest)) :
    (∀ s v, r.decodeText type s = .ok v ↔
        ∃ n : Int64, v = .integer n ∧ SpellsInteger n.toInt (Text.trim s) ∧
          least ≤ n.toInt ∧ n.toInt ≤ greatest) ∧
      (∀ s text, r.decodeText type s = .error (.rejected (.outOfRange type text)) ↔
        ∃ n, SpellsInteger n (Text.trim s) ∧ (n < least ∨ greatest < n) ∧
          text = IntegerCodec.rangeText s n) ∧
      (∀ s, r.decodeText type s = .error (.rejected (.malformed type (String.ofList s))) ↔
        ∀ n, ¬SpellsInteger n (Text.trim s)) ∧
      (∀ n : Int64, least ≤ n.toInt → n.toInt ≤ greatest → ∀ format,
        ∃ p, r.encode type (.integer n) format = .ok p ∧ p.format = format ∧
          ∀ other : Registry, other.decode type p = .ok (.integer n)) ∧
      (∀ n : Int64, n.toInt < least ∨ greatest < n.toInt → ∀ format,
        r.encode type (.integer n) format =
          .error (.outOfRange type (Numeral.ofInt n.toInt))) ∧
      ∀ bytes, IntegerCodec.width? type = some bytes.length →
        ∃ n, r.decode type (.ofBytes bytes) = .ok (.integer n) ∧
          r.encode type (.integer n) .binary = .ok (.ofBytes bytes) := by
  have hkind := WireType.kind_of_integerBounds hbounds
  have hdecode (s : List Char) : r.decodeText type s =
      liftM (IntegerCodec.ofText type s) >>= fun v => pure (Value.integer v) :=
    (Codec.decode_ofText type r.context s).trans (Codec.ofText_integer hkind r.context s)
  refine ⟨fun s v => ?_, fun s text => ?_, fun s => ?_, fun n hlow hhigh format => ?_,
    fun n h format => Codec.encode_integer_of_not_le hbounds h format,
    fun bytes hbytes => Codec.exists_decode_encode_integer hbounds hbytes r.context⟩
  · rw [hdecode, bind_pure_eq_ok_iff]
    simp only [lift_eq_ok_iff, IntegerCodec.ofText_eq_ok_iff hbounds]
    exact exists_congr fun n => by rw [and_comm, eq_comm]
  · rw [hdecode, bind_pure_eq_error_iff, lift_eq_rejected_iff]
    exact IntegerCodec.ofText_eq_outOfRange_iff hbounds
  · rw [hdecode, bind_pure_eq_error_iff, lift_eq_rejected_iff]
    exact IntegerCodec.ofText_eq_malformed_iff hbounds
  · obtain ⟨p, hwrite, hformat, hread⟩ :=
      Codec.exists_encode_decode_integer hbounds hlow hhigh format
    exact ⟨p, hwrite, hformat, fun other => hread other.context⟩

/-- The least number of two bytes behind many zeros, a number of twenty digits, a sign alone and the
word of the least number. -/
theorem integer_within_bounds_int2 :
    let r := standard .excerpt
    let least := " -000000000000000000000032768\n".toList
    let beyond := "+99999999999999999999".toList
    WireType.int2.integerBounds? = some (-0x8000, 0x7FFF) ∧
      SpellsInteger (-32768) (Text.trim least) ∧
      r.decodeText .int2 least = .ok (.integer (-32768)) ∧
      SpellsInteger 99999999999999999999 (Text.trim beyond) ∧
      r.decodeText .int2 beyond =
        .error (.rejected (.outOfRange .int2 "+99999999999999999999")) ∧
      r.decodeText .int2 ['-'] = .error (.rejected (.malformed .int2 "-")) ∧
      (∀ format, r.encode .int2 (.integer 32768) format =
        .error (.outOfRange .int2 "32768")) ∧
      ∃ n, r.decode .int2 (.ofBytes [128, 0]) = .ok (.integer n) ∧
        r.encode .int2 (.integer n) .binary = .ok (.ofBytes [128, 0]) := by
  intro r least beyond
  have hbounds : WireType.int2.integerBounds? = some (-0x8000, 0x7FFF) := rfl
  obtain ⟨htext, hrange, hnone, -, hrefuse, hword⟩ := r.integer_within_bounds hbounds
  have hleast : SpellsInteger (-32768) (Text.trim least) :=
    Numeral.readSigned?_eq_some_iff.mp (by decide +kernel)
  have hbeyond : SpellsInteger 99999999999999999999 (Text.trim beyond) :=
    Numeral.readSigned?_eq_some_iff.mp (by decide +kernel)
  have hsign : ∀ n, ¬SpellsInteger n (Text.trim ['-']) :=
    Numeral.readSigned?_eq_none_iff.mp (by decide +kernel)
  exact ⟨hbounds, hleast, (htext _ _).mpr ⟨-32768, rfl, hleast, by decide, by decide⟩, hbeyond,
    (hrange _ _).mpr ⟨_, hbeyond, by decide, by decide +kernel⟩, (hnone _).mpr hsign,
    hrefuse 32768 (by decide), hword [128, 0] rfl⟩

end Registry

end ScalarWire
