import Mathlib.Algebra.Order.Group.Unbundled.Abs
import ScalarWire.Proofs.Float.Magnitude

/-!
# Nearest patterns

`IsNearest` says what it is to round correctly: of all patterns up to infinity the result is the
nearest, and of two equally near ones the even one. Every number has at most one such pattern, and a
number that a pattern stands for has that pattern itself.
-/

namespace ScalarWire.FloatFormat

variable {f : FloatFormat} {x : ℚ} {bits other : Nat}

variable (f) in
/-- Whether a pattern is taken rather than another one: it is nearer to the number, or as near and
even. -/
def Closer (x : ℚ) (bits other : Nat) : Prop :=
  |x - f.magnitude bits| < |x - f.magnitude other| ∨
    |x - f.magnitude bits| = |x - f.magnitude other| ∧ bits % 2 = 0

variable (f) in
/-- The pattern to which a number rounds that is not negative. -/
def IsNearest (x : ℚ) (bits : Nat) : Prop :=
  bits ≤ f.infinityBits ∧ ∀ other ≤ f.infinityBits, other ≠ bits → f.Closer x bits other

theorem Closer.le (h : f.Closer x bits other) :
    |x - f.magnitude bits| ≤ |x - f.magnitude other| :=
  h.elim le_of_lt fun heq => heq.1.le

/-- The lower of two neighbours is taken up to the middle between them. -/
theorem closer_of_le_half (hle : f.magnitude bits ≤ x)
    (hhalf : 2 * (x - f.magnitude bits) < f.unit bits ∨
      2 * (x - f.magnitude bits) = f.unit bits ∧ bits % 2 = 0) (hne : other ≠ bits) :
    f.Closer x bits other := by
  have hdist : |x - f.magnitude bits| = x - f.magnitude bits := abs_of_nonneg (sub_nonneg.mpr hle)
  rcases Nat.lt_or_gt_of_ne hne with hlt | hgt
  · have hother := magnitude_strictMono (f := f) hlt
    left
    rw [hdist]
    exact lt_of_lt_of_le (by linarith) (le_abs_self _)
  · have hother := (magnitude_strictMono (f := f)).monotone (Nat.succ_le_of_lt hgt)
    rw [Nat.succ_eq_add_one, magnitude_succ] at hother
    have hfar := neg_abs_le (x - f.magnitude other)
    rw [Closer, hdist]
    rcases hhalf with hhalf | ⟨hhalf, heven⟩
    · left
      linarith
    · rcases lt_or_eq_of_le (show x - f.magnitude bits ≤ |x - f.magnitude other| by linarith)
        with h | h
      · exact Or.inl h
      · exact Or.inr ⟨h, heven⟩

/-- The upper of two neighbours is taken from the middle between them. -/
theorem closer_succ_of_half_le (hle : x ≤ f.magnitude (bits + 1))
    (hhalf : f.unit bits < 2 * (x - f.magnitude bits) ∨
      f.unit bits = 2 * (x - f.magnitude bits) ∧ bits % 2 = 1) (hne : other ≠ bits + 1) :
    f.Closer x (bits + 1) other := by
  have hsucc := magnitude_succ (f := f) bits
  have hdist : |x - f.magnitude (bits + 1)| = f.magnitude (bits + 1) - x := by
    rw [abs_sub_comm]
    exact abs_of_nonneg (sub_nonneg.mpr hle)
  rcases Nat.lt_or_gt_of_ne hne with hlt | hgt
  · have hother := (magnitude_strictMono (f := f)).monotone (Nat.le_of_lt_succ hlt)
    have hfar := le_abs_self (x - f.magnitude other)
    rw [Closer, hdist]
    rcases hhalf with hhalf | ⟨hhalf, hodd⟩
    · left
      linarith
    · rcases lt_or_eq_of_le
        (show f.magnitude (bits + 1) - x ≤ |x - f.magnitude other| by linarith) with h | h
      · exact Or.inl h
      · exact Or.inr ⟨h, by omega⟩
  · have hother := magnitude_strictMono (f := f) hgt
    left
    rw [hdist, abs_sub_comm x]
    exact lt_of_lt_of_le (by linarith) (le_abs_self _)

/-- What is nearest of all patterns is nearest of those up to infinity, unless it lies beyond. -/
theorem isNearest_min (h : ∀ other, other ≠ bits → f.Closer x bits other) :
    f.IsNearest x (min f.infinityBits bits) := by
  rcases le_or_gt bits f.infinityBits with hle | hgt
  · rw [Nat.min_eq_right hle]
    exact ⟨hle, fun other _ hne => h other hne⟩
  · -- The number is nearer to a pattern beyond infinity, so it lies above infinity itself.
    have hinfinity := (h f.infinityBits hgt.ne).le
    have hmono := magnitude_strictMono (f := f) hgt
    have habove : f.magnitude f.infinityBits < x := by
      by_contra hx
      rw [abs_of_nonpos (by linarith), abs_of_nonpos (by linarith)] at hinfinity
      linarith
    rw [Nat.min_eq_left hgt.le]
    refine ⟨le_rfl, fun other hother hne => Or.inl ?_⟩
    have hlower := magnitude_strictMono (f := f) (lt_of_le_of_ne hother hne)
    rw [abs_of_pos (by linarith), abs_of_pos (by linarith)]
    linarith

theorem IsNearest.le (h : f.IsNearest x bits) : bits ≤ f.infinityBits :=
  h.1

/-- Between two even patterns there is a third one, so only one of them can be taken. -/
theorem IsNearest.not_lt (h : f.IsNearest x bits) (h' : f.IsNearest x other) : ¬bits < other := by
  intro hlt
  have hfirst := h.2 other h'.le hlt.ne'
  have hsecond := h'.2 bits h.le hlt.ne
  have hdist := le_antisymm hfirst.le hsecond.le
  have heven : bits % 2 = 0 ∧ other % 2 = 0 :=
    ⟨(hfirst.resolve_left hdist.not_lt).2, (hsecond.resolve_left hdist.symm.not_lt).2⟩
  have hlow := magnitude_strictMono (f := f) (Nat.lt_succ_self bits)
  have hhigh := magnitude_strictMono (f := f) (show bits + 1 < other by omega)
  have hbetween := (h.2 (bits + 1) (by have := h'.le; omega) (by omega)).le
  have hmiddle : x - f.magnitude bits = f.magnitude other - x := by
    rcases abs_eq_abs.mp hdist with heq | heq
    · linarith
    · linarith
  rw [abs_of_nonneg (show 0 ≤ x - f.magnitude bits by linarith)] at hbetween
  have hinside : |x - f.magnitude (bits + 1)| < x - f.magnitude bits :=
    abs_lt.mpr ⟨by linarith, by linarith⟩
  exact hbetween.not_gt hinside

/-- A number rounds to one pattern only. -/
theorem IsNearest.unique (h : f.IsNearest x bits) (h' : f.IsNearest x other) : bits = other :=
  le_antisymm (Nat.not_lt.mp (h'.not_lt h)) (Nat.not_lt.mp (h.not_lt h'))

/-- A number that a pattern stands for is rounded to that pattern. -/
theorem isNearest_magnitude (h : bits ≤ f.infinityBits) : f.IsNearest (f.magnitude bits) bits := by
  refine ⟨h, fun other _ hne => Or.inl ?_⟩
  rw [sub_self, abs_zero]
  exact abs_pos.mpr (sub_ne_zero.mpr fun heq => hne (magnitude_strictMono.injective heq).symm)

theorem isNearest_zero_zero : f.IsNearest 0 0 := by
  simpa using isNearest_magnitude (f := f) (Nat.zero_le _)

/-- A number from infinity on rounds to infinity. -/
theorem isNearest_infinityBits (h : f.magnitude f.infinityBits ≤ x) :
    f.IsNearest x f.infinityBits := by
  refine ⟨le_rfl, fun other hother hne => Or.inl ?_⟩
  have hlower := magnitude_strictMono (f := f) (lt_of_le_of_ne hother hne)
  rw [abs_of_nonneg (by linarith), abs_of_nonneg (by linarith)]
  linarith

/-- A number up to half the least one rounds to zero. -/
theorem isNearest_zero (hx : 0 ≤ x) (h : 2 * x ≤ f.unit 0) : f.IsNearest x 0 := by
  refine ⟨Nat.zero_le _, fun other _ hne => closer_of_le_half (by simpa using hx) ?_ hne⟩
  rw [magnitude_zero, sub_zero]
  exact (lt_or_eq_of_le h).imp_right fun heq => ⟨heq, rfl⟩

/-- A number that differs from a magnitude by less than this part of it rounds to that magnitude. -/
theorem isNearest_of_abs_sub_lt (hne : bits ≠ 0) (hle : bits ≤ f.infinityBits)
    (h : |x - f.magnitude bits| * 2 ^ (f.fractionBits + 2) < f.magnitude bits) :
    f.IsNearest x bits := by
  obtain ⟨lower, rfl⟩ := Nat.exists_eq_succ_of_ne_zero hne
  rw [Nat.succ_eq_add_one] at *
  have hpow : (0 : ℚ) < 2 ^ (f.fractionBits + 1) := by positivity
  rw [pow_succ, ← mul_assoc, mul_right_comm] at h
  -- Both neighbours are more than twice as far away.
  have hbelow : |x - f.magnitude (lower + 1)| * 2 < f.unit lower := by
    have hunit := magnitude_add_unit_le (f := f) lower
    rw [← magnitude_succ, mul_comm] at hunit
    exact lt_of_mul_lt_mul_right (h.trans_le hunit) hpow.le
  have habove : |x - f.magnitude (lower + 1)| * 2 < f.unit (lower + 1) := by
    have hunit := magnitude_add_unit_le (f := f) (lower + 1)
    rw [mul_comm (2 ^ _)] at hunit
    have := unit_pos (f := f) (lower + 1)
    exact lt_of_mul_lt_mul_right (h.trans_le (by linarith)) hpow.le
  refine ⟨hle, fun other _ hother => ?_⟩
  rcases le_total (f.magnitude (lower + 1)) x with hx | hx
  · rw [abs_of_nonneg (by linarith)] at habove
    exact closer_of_le_half hx (Or.inl (by linarith)) hother
  · have hsucc := magnitude_succ (f := f) lower
    rw [abs_of_nonpos (by linarith)] at hbelow
    exact closer_succ_of_half_le hx (Or.inl (by linarith)) hother

end ScalarWire.FloatFormat
