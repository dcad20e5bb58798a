import ScalarWire.Decimal.Wire
import ScalarWire.Proofs.Decimal.Value
import ScalarWire.Proofs.Number.BigEndian

/-!
# The layout of binary decimals

`HasLayout` reads a byte string as four header words and a list of groups. What `frame` writes
has the layout that it was given, and the bytes that `ofBytes` accepts are those whose layout is
well formed.
-/

namespace ScalarWire.Decimal

open BigEndian

/-- The bytes of the 16-bit word at a position, counted in words. -/
def wordAt (bytes : List UInt8) (i : Nat) : List UInt8 :=
  (bytes.drop (2 * i)).take 2

/-- A byte string as a header, which counts the groups and gives weight, sign and scale, and the
groups behind it. -/
structure HasLayout (bytes : List UInt8) (weight : Int) (sign : Nat) (scale : Int)
    (groups : List Nat) : Prop where
  length_eq : bytes.length = 8 + 2 * groups.length
  count_eq : signed (wordAt bytes 0) = groups.length
  weight_eq : signed (wordAt bytes 1) = weight
  sign_eq : unsigned (wordAt bytes 2) = sign
  scale_eq : signed (wordAt bytes 3) = scale
  groups_eq : wordsOf (bytes.drop 8) = groups.map Int.ofNat

/-- The count, the weight and the scale are signed 16-bit words. -/
theorem HasLayout.header_lt {bytes : List UInt8} {weight : Int} {sign : Nat} {scale : Int}
    {groups : List Nat} (h : HasLayout bytes weight sign scale groups) :
    groups.length ≤ 32767 ∧ weight ≤ 32767 ∧ scale ≤ 32767 := by
  have hlen := h.length_eq
  have hword : ∀ i < 4, (wordAt bytes i).length = 2 := by
    intro i hi
    rw [wordAt, List.length_take, List.length_drop]
    omega
  have hcount := two_mul_signed_lt (wordAt bytes 0)
  have hweight := two_mul_signed_lt (wordAt bytes 1)
  have hscale := two_mul_signed_lt (wordAt bytes 3)
  rw [h.count_eq, hword 0 (by omega)] at hcount
  rw [h.weight_eq, hword 1 (by omega)] at hweight
  rw [h.scale_eq, hword 3 (by omega)] at hscale
  omega

theorem exists_encode_two (z : Int) : ∃ high low, encode 2 z = [high, low] :=
  List.length_eq_two.mp (length_encode 2 z)

theorem wordsOf_encode_append (z : Int) (rest : List UInt8) :
    wordsOf (encode 2 z ++ rest) = signed (encode 2 z) :: wordsOf rest := by
  obtain ⟨high, low, h⟩ := exists_encode_two z
  rw [h]
  rfl

theorem wordsOf_flatMap_encode {groups : List Nat} (hg : ∀ g ∈ groups, g < 32768) :
    wordsOf (groups.flatMap fun g : Nat => encode 2 g) = groups.map Int.ofNat := by
  induction groups with
  | nil => rfl
  | cons g groups ih =>
      have hlt := hg g List.mem_cons_self
      rw [List.flatMap_cons, wordsOf_encode_append, ih fun g' h => hg g' (List.mem_cons_of_mem _ h),
        signed_encode (by omega) (by omega)]
      rfl

theorem length_wordsOf (bytes : List UInt8) : (wordsOf bytes).length = bytes.length / 2 := by
  fun_induction wordsOf bytes with
  | case1 high low rest ih => simp only [List.length_cons, ih]; omega
  | case2 bytes h =>
      match bytes, h with
      | [], _ => rfl
      | [_], _ => simp
      | high :: low :: rest, h => exact absurd rfl (h high low rest)

theorem hasLayout_frame {weight scale : Int} {sign : Nat} {groups : List Nat}
    (hcount : groups.length < 32768) (hweight : -32768 ≤ weight ∧ weight < 32768)
    (hsign : sign < 65536) (hscale : 0 ≤ scale ∧ scale < 32768) (hg : ∀ g ∈ groups, g < 32768) :
    HasLayout (frame weight sign scale groups) weight sign scale groups := by
  have hbody : (groups.flatMap fun g : Nat => encode 2 g).length = 2 * groups.length := by
    simp [List.length_flatMap, Nat.mul_comm]
  obtain ⟨n₀, n₁, hn⟩ := exists_encode_two groups.length
  obtain ⟨w₀, w₁, hw⟩ := exists_encode_two weight
  obtain ⟨s₀, s₁, hs⟩ := exists_encode_two sign
  obtain ⟨d₀, d₁, hd⟩ := exists_encode_two scale
  have hframe : frame weight sign scale groups =
      n₀ :: n₁ :: w₀ :: w₁ :: s₀ :: s₁ :: d₀ :: d₁ :: groups.flatMap fun g : Nat => encode 2 g := by
    simp [frame, hn, hw, hs, hd]
  constructor
  · simp only [hframe, List.length_cons, hbody]
    omega
  · rw [hframe, show wordAt _ 0 = [n₀, n₁] from rfl, ← hn]
    exact signed_encode (by omega) (by omega)
  · rw [hframe, show wordAt _ 1 = [w₀, w₁] from rfl, ← hw]
    exact signed_encode (by omega) (by omega)
  · rw [hframe, show wordAt _ 2 = [s₀, s₁] from rfl, ← hs]
    have h := unsigned_encode 2 sign
    omega
  · rw [hframe, show wordAt _ 3 = [d₀, d₁] from rfl, ← hd]
    exact signed_encode (by omega) (by omega)
  · rw [hframe, show List.drop 8 _ = groups.flatMap fun g : Nat => encode 2 g from rfl,
      wordsOf_flatMap_encode hg]

/-- The sign words of finite numbers. -/
def IsSign (sign : Nat) : Prop :=
  sign = positiveSign ∨ sign = negativeSign

theorem ofBytes_of_hasLayout {bytes : List UInt8} {weight scale : Int} {sign : Nat}
    {groups : List Nat} (h : HasLayout bytes weight sign scale groups) (hsign : IsSign sign)
    (hscale : 0 ≤ scale) (hg : ∀ g ∈ groups, g < 10000) :
    ofBytes bytes =
      .ok ((ofGroups (sign == negativeSign) weight groups).withScale scale) := by
  have hlen := h.length_eq
  have hcount : signed ((bytes.drop (2 * 0)).take 2) = groups.length := h.count_eq
  have hw : signed ((bytes.drop (2 * 1)).take 2) = weight := h.weight_eq
  have hs : unsigned ((bytes.drop 4).take 2) = sign := h.sign_eq
  have hd : signed ((bytes.drop (2 * 3)).take 2) = scale := h.scale_eq
  have hall : (wordsOf (bytes.drop 8)).all (fun g => 0 ≤ g && g < 10000) = true := by
    rw [List.all_eq_true, h.groups_eq]
    intro z hz
    obtain ⟨g, hmem, rfl⟩ := List.mem_map.mp hz
    have hlt := hg g hmem
    rw [Bool.and_eq_true, decide_eq_true_eq, decide_eq_true_eq, Int.ofNat_eq_natCast]
    omega
  have hnat : (wordsOf (bytes.drop 8)).map Int.toNat = groups := by
    simp [h.groups_eq, Function.comp_def]
  have hnan : sign ≠ notANumberSign := by
    rcases hsign with rfl | rfl <;> decide
  have hok : ¬ ((sign ≠ positiveSign ∧ sign ≠ negativeSign) ∨ (groups.length : Int) < 0 ∨
      scale < 0) := by
    rintro (⟨h1, h2⟩ | h1 | h1)
    · exact hsign.elim h1 h2
    · omega
    · omega
  simp only [ofBytes]
  rw [if_neg (by omega), hs, if_neg hnan, hcount, hd, if_neg hok, if_neg (by omega), if_pos hall,
    hw, hnat]
  rfl

/-- What `ofBytes` accepts, and the number it makes of it. -/
theorem ofBytes_eq_ok_iff {bytes : List UInt8} {d : Decimal} :
    ofBytes bytes = .ok d ↔ ∃ weight sign scale groups, HasLayout bytes weight sign scale groups ∧
      IsSign sign ∧ 0 ≤ scale ∧ (∀ g ∈ groups, g < 10000) ∧
      d = (ofGroups (sign == negativeSign) weight groups).withScale scale := by
  constructor
  · intro h
    simp only [ofBytes] at h
    split_ifs at h with hlen hnan hhead hcount hgroups
    simp only [not_or, not_and_or, not_not, not_lt] at hhead hcount
    obtain ⟨hsign, hword, hscale⟩ := hhead
    simp only [List.all_eq_true, Bool.and_eq_true, decide_eq_true_eq] at hgroups
    have hnat : ((wordsOf (bytes.drop 8)).map Int.toNat).map Int.ofNat =
        wordsOf (bytes.drop 8) := by
      rw [List.map_map, List.map_congr_left (g := id), List.map_id]
      intro g hg
      exact Int.toNat_of_nonneg (hgroups g hg).1
    have hlength := length_wordsOf (bytes.drop 8)
    rw [List.length_drop] at hlength
    have hword' : signed (wordAt bytes 0) = signed ((bytes.drop (2 * 0)).take 2) := rfl
    refine ⟨_, _, _, _, ⟨?_, ?_, rfl, rfl, rfl, hnat.symm⟩, hsign, hscale, ?_,
      (Except.ok.inj h).symm⟩
    · rw [List.length_map]
      omega
    · rw [List.length_map]
      omega
    · intro g hg
      obtain ⟨z, hz, rfl⟩ := List.mem_map.mp hg
      have := hgroups z hz
      omega
  · rintro ⟨weight, sign, scale, groups, hlayout, hsign, hscale, hg, rfl⟩
    exact ofBytes_of_hasLayout hlayout hsign hscale hg

end ScalarWire.Decimal
