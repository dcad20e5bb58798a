import Mathlib.Algebra.Group.Nat.Even
import ScalarWire.Payload
import ScalarWire.Proofs.Text.Letter

/-!
# Hexadecimal text

Bytes are written as pairs of hexadecimal digits in lower case, and pairs of digits in either case
are read. What is written is read back, and what is read is the text of its bytes but for the case
of its letters.
-/

namespace ScalarWire

open Text

namespace Hex

/-! ### Digits -/

/-- The hexadecimal digits in either case. -/
def IsDigit (c : Char) : Prop :=
  c ∈ "0123456789abcdefABCDEF".toList

instance (c : Char) : Decidable (IsDigit c) :=
  inferInstanceAs (Decidable (c ∈ "0123456789abcdefABCDEF".toList))

theorem digitValue?_digitChar : ∀ d < 16, digitValue? (digitChar d) = some d := by
  decide

theorem digitValue?_toLower (c : Char) : digitValue? c.toLower = digitValue? c :=
  apply_toLower digitValue? (by decide) c

/-- A digit is the one that is written for its value, but for its case. -/
theorem exists_digitChar_eq {c : Char} (hc : IsDigit c) : ∃ d < 16, digitChar d = c.toLower := by
  have hdigits : "0123456789abcdefABCDEF".toList.all fun c =>
      (List.range 16).any (digitChar · == c.toLower) := by
    decide
  obtain ⟨d, hd, hchar⟩ := List.any_eq_true.mp (List.all_eq_true.mp hdigits c hc)
  exact ⟨d, List.mem_range.mp hd, beq_iff_eq.mp hchar⟩

/-- Only digits have a value. -/
theorem isDigit_of_digitValue? {c : Char} {d : Nat} (h : digitValue? c = some d) : IsDigit c := by
  have hascii : ∀ n < 128, (digitValue? (Char.ofNat n)).isSome → IsDigit (Char.ofNat n) := by
    decide +kernel
  by_cases hc : c.toNat < 128
  · exact c.ofNat_toNat ▸ hascii c.toNat hc (by rw [c.ofNat_toNat, h]; rfl)
  · have hbeyond : ∀ last : Char, last.toNat < 128 → ¬c ≤ last := fun last hlast hle =>
      hc (Nat.lt_of_le_of_lt hle hlast)
    simp [digitValue?, hbeyond] at h

/-! ### Bytes -/

theorem encode_cons (b : UInt8) (bytes : List UInt8) :
    encode (b :: bytes) = encodeByte b ++ encode bytes :=
  List.flatMap_cons

/-- Two digits are written for some byte. -/
theorem exists_encodeByte_eq {high low : Char} (hhigh : IsDigit high) (hlow : IsDigit low) :
    ∃ b, encodeByte b = lower [high, low] := by
  obtain ⟨h, hh, hhigh'⟩ := exists_digitChar_eq hhigh
  obtain ⟨l, hl, hlow'⟩ := exists_digitChar_eq hlow
  have hvalue : (UInt8.ofNat (16 * h + l)).toNat = 16 * h + l := by
    rw [UInt8.toNat_ofNat']
    omega
  refine ⟨UInt8.ofNat (16 * h + l), ?_⟩
  rw [encodeByte, hvalue, show (16 * h + l) / 16 = h by omega, show (16 * h + l) % 16 = l by omega,
    hhigh', hlow']
  rfl

theorem decodeOnto_encodeByte (done : List UInt8) (b : UInt8) (rest : List Char) :
    decodeOnto done (encodeByte b ++ rest) = decodeOnto (b :: done) rest := by
  have hb := b.toNat_lt
  have hhigh := digitValue?_digitChar (b.toNat / 16) (by omega)
  have hlow := digitValue?_digitChar (b.toNat % 16) (by omega)
  have hvalue : 16 * (b.toNat / 16) + b.toNat % 16 = b.toNat := by omega
  simp only [encodeByte, List.cons_append, List.nil_append, decodeOnto, hhigh, hlow, hvalue,
    UInt8.ofNat_toNat]

theorem decodeOnto_encode (done bytes : List UInt8) :
    decodeOnto done (encode bytes) = some (done.reverse ++ bytes) := by
  induction bytes generalizing done with
  | nil => simp [encode, decodeOnto]
  | cons b bytes ih => rw [encode_cons, decodeOnto_encodeByte, ih]; simp

/-- What is written is read back. -/
theorem decode?_encode (bytes : List UInt8) : decode? (encode bytes) = some bytes :=
  decodeOnto_encode [] bytes

theorem decodeOnto_lower (done : List UInt8) (s : List Char) :
    decodeOnto done (lower s) = decodeOnto done s := by
  induction done, s using decodeOnto.induct with
  | case1 done => rfl
  | case2 done c => rfl
  | case3 done high low rest d e hlow hhigh ih =>
      simp only [lower_cons, decodeOnto, digitValue?_toLower, hhigh, hlow, ih]
  | case4 done high low rest hnone => simp only [lower_cons, decodeOnto, digitValue?_toLower]

/-- An even number of digits. -/
structure IsPairs (s : List Char) : Prop where
  even : Even s.length
  digits : ∀ c ∈ s, IsDigit c

theorem isPairs_nil : IsPairs [] :=
  ⟨Even.zero, nofun⟩

theorem not_isPairs_singleton (c : Char) : ¬IsPairs [c] :=
  fun h => absurd h.even Nat.not_even_one

theorem isPairs_cons_cons_iff {high low : Char} {s : List Char} :
    IsPairs (high :: low :: s) ↔ IsDigit high ∧ IsDigit low ∧ IsPairs s := by
  have heven : Even (high :: low :: s).length ↔ Even s.length := by
    rw [List.length_cons, List.length_cons, Nat.even_add_one, Nat.even_add_one, not_not]
  constructor
  · rintro ⟨hlen, hdigits⟩
    obtain ⟨hhigh, hrest⟩ := List.forall_mem_cons.mp hdigits
    obtain ⟨hlow, hrest⟩ := List.forall_mem_cons.mp hrest
    exact ⟨hhigh, hlow, heven.mp hlen, hrest⟩
  · rintro ⟨hhigh, hlow, hlen, hrest⟩
    exact ⟨heven.mpr hlen, List.forall_mem_cons.mpr ⟨hhigh, List.forall_mem_cons.mpr ⟨hlow, hrest⟩⟩⟩

/-- Pairs of digits are written for some bytes, but for their case. -/
theorem IsPairs.exists_encode_eq : ∀ {s : List Char}, IsPairs s → ∃ bytes, encode bytes = lower s
  | [], _ => ⟨[], rfl⟩
  | [c], h => absurd h (not_isPairs_singleton c)
  | high :: low :: rest, h => by
      obtain ⟨hhigh, hlow, hrest⟩ := isPairs_cons_cons_iff.mp h
      obtain ⟨b, hb⟩ := exists_encodeByte_eq hhigh hlow
      obtain ⟨bytes, hbytes⟩ := hrest.exists_encode_eq
      exact ⟨b :: bytes, by rw [encode_cons, hb, hbytes, ← lower_append]; rfl⟩

/-- Only pairs of digits are read. -/
theorem isPairs_of_decodeOnto {done bytes : List UInt8} {s : List Char}
    (h : decodeOnto done s = some bytes) : IsPairs s := by
  induction done, s using decodeOnto.induct with
  | case1 done => exact isPairs_nil
  | case2 done c => exact nomatch h
  | case3 done high low rest d e hlow hhigh ih =>
      simp only [decodeOnto, hhigh, hlow] at h
      exact isPairs_cons_cons_iff.mpr
        ⟨isDigit_of_digitValue? hhigh, isDigit_of_digitValue? hlow, ih h⟩
  | case4 done high low rest hnone =>
      rw [decodeOnto] at h
      split at h
      · exact absurd ‹_› (hnone _ _ ‹_›)
      · exact nomatch h

theorem decode?_eq_some_iff {s : List Char} {bytes : List UInt8} :
    decode? s = some bytes ↔ IsPairs s ∧ encode bytes = lower s := by
  have hlower : decode? s = decode? (lower s) := (decodeOnto_lower [] s).symm
  constructor
  · intro h
    have hpairs := isPairs_of_decodeOnto h
    obtain ⟨bytes', hbytes'⟩ := hpairs.exists_encode_eq
    rw [hlower, ← hbytes', decode?_encode] at h
    exact ⟨hpairs, Option.some.inj h ▸ hbytes'⟩
  · rintro ⟨-, hbytes⟩
    rw [hlower, ← hbytes, decode?_encode]

theorem isPairs_encode (bytes : List UInt8) : IsPairs (encode bytes) :=
  (decode?_eq_some_iff.mp (decode?_encode bytes)).1

theorem lower_encode (bytes : List UInt8) : lower (encode bytes) = encode bytes :=
  (decode?_eq_some_iff.mp (decode?_encode bytes)).2.symm

end Hex

namespace Blob

/-- A backslash, an `x` and pairs of hexadecimal digits, each letter in either case. -/
def IsHexText (t : List Char) : Prop :=
  ∃ mark digits, t = '\\' :: mark :: digits ∧ (mark = 'x' ∨ mark = 'X') ∧ Hex.IsPairs digits

section

variable {b : Blob} {t : List Char}

theorem isHexText_hexText (b : Blob) : IsHexText b.hexText :=
  ⟨'x', Hex.encode b.bytes, rfl, Or.inl rfl, Hex.isPairs_encode b.bytes⟩

theorem lower_hexText (b : Blob) : lower b.hexText = b.hexText := by
  rw [hexText, lower_cons, lower_cons, Hex.lower_encode]
  rfl

theorem lower_cons_mark {mark : Char} (hmark : mark = 'x' ∨ mark = 'X') (digits : List Char) :
    lower ('\\' :: mark :: digits) = '\\' :: 'x' :: lower digits := by
  rcases hmark with rfl | rfl <;> rfl

theorem ofHexText?_cons_eq_some_iff {mark : Char} (hmark : mark = 'x' ∨ mark = 'X')
    (digits : List Char) :
    ofHexText? ('\\' :: mark :: digits) = some b ↔
      Hex.IsPairs digits ∧ b.hexText = lower ('\\' :: mark :: digits) := by
  have hread : ofHexText? ('\\' :: mark :: digits) = (Hex.decode? digits).map (⟨·⟩) :=
    if_pos hmark
  rw [hread, Option.map_eq_some_iff, lower_cons_mark hmark, hexText, List.cons.injEq,
    List.cons.injEq]
  constructor
  · rintro ⟨bytes, hbytes, rfl⟩
    obtain ⟨hpairs, htext⟩ := Hex.decode?_eq_some_iff.mp hbytes
    exact ⟨hpairs, rfl, rfl, htext⟩
  · rintro ⟨hpairs, -, -, htext⟩
    exact ⟨b.bytes, Hex.decode?_eq_some_iff.mpr ⟨hpairs, htext⟩, rfl⟩

theorem exists_mark_of_ofHexText? (h : ofHexText? t = some b) :
    ∃ mark digits, t = '\\' :: mark :: digits ∧ (mark = 'x' ∨ mark = 'X') := by
  unfold ofHexText? at h
  split at h
  · split_ifs at h with hmark
    exact ⟨_, _, rfl, hmark⟩
  · exact nomatch h

theorem ofHexText?_eq_some_iff : ofHexText? t = some b ↔ IsHexText t ∧ b.hexText = lower t := by
  constructor
  · intro h
    obtain ⟨mark, digits, rfl, hmark⟩ := exists_mark_of_ofHexText? h
    obtain ⟨hpairs, htext⟩ := (ofHexText?_cons_eq_some_iff hmark digits).mp h
    exact ⟨⟨mark, digits, rfl, hmark, hpairs⟩, htext⟩
  · rintro ⟨⟨mark, digits, rfl, hmark, hpairs⟩, htext⟩
    exact (ofHexText?_cons_eq_some_iff hmark digits).mpr ⟨hpairs, htext⟩

theorem IsHexText.exists_hexText_eq (h : IsHexText t) : ∃ b : Blob, b.hexText = lower t := by
  obtain ⟨mark, digits, rfl, hmark, hpairs⟩ := h
  obtain ⟨bytes, hbytes⟩ := hpairs.exists_encode_eq
  exact ⟨⟨bytes⟩, by rw [hexText, hbytes, lower_cons_mark hmark]⟩

end

/-- The text of a byte string is read back, exactly the hexadecimal texts are read, and a text is
read as the byte string whose text it is in lower case. -/
theorem ofHexText?_hexText_and_isSome_iff (b : Blob) (t : List Char) :
    ofHexText? b.hexText = some b ∧ ((ofHexText? t).isSome ↔ IsHexText t) ∧
      (ofHexText? t = some b ↔ IsHexText t ∧ b.hexText = lower t) := by
  refine ⟨?_, ?_, ofHexText?_eq_some_iff⟩
  · exact ofHexText?_eq_some_iff.mpr ⟨isHexText_hexText b, (lower_hexText b).symm⟩
  · rw [Option.isSome_iff_exists]
    constructor
    · rintro ⟨b', h⟩
      exact (ofHexText?_eq_some_iff.mp h).1
    · intro h
      obtain ⟨b', htext⟩ := h.exists_hexText_eq
      exact ⟨b', ofHexText?_eq_some_iff.mpr ⟨h, htext⟩⟩

example : ofHexText? "\\X4a4B".toList = some ⟨[0x4A, 0x4B]⟩ := by decide

end Blob

end ScalarWire
