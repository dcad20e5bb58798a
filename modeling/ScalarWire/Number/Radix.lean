/-!
# Positional numerals

A natural number as a list of digits in any base of two or more, the most significant digit
first. Digits are cut off in blocks whose length is a power of two, so that writing a long
number takes few long divisions.
-/

namespace ScalarWire.Radix

-- Powers are those of the core library, also beside Mathlib.
attribute [local instance (high)] instPowNat

/-- The number that a list of digits denotes. -/
def value (base : Nat) (digits : List Nat) : Nat :=
  digits.foldl (fun n d => base * n + d) 0

/-- The last `2 ^ k` digits of `n`, with leading zeros. -/
def block (base : Nat) : Nat → Nat → List Nat
  | 0, n => [n % base]
  | k + 1, n =>
    let half := base ^ (2 ^ k : Nat)
    block base k (n / half) ++ block base k (n % half)

/-- A block of this size holds every digit of `n`. -/
def blockSize (base n : Nat) : Nat :=
  (n.log2 / base.log2 + 1).log2 + 1

/-- The digits of `n` without leading zeros; zero has none. -/
def digits (base n : Nat) : List Nat :=
  (block base (blockSize base n) n).dropWhile (· == 0)

theorem value_cons (base d : Nat) (ds : List Nat) :
    value base (d :: ds) = base ^ ds.length * d + value base ds := by
  suffices h : ∀ (l : List Nat) (a : Nat),
      l.foldl (fun n d => base * n + d) a = base ^ l.length * a + value base l by
    simpa [value] using h ds d
  intro l
  induction l with
  | nil => simp [value]
  | cons x xs ih =>
      intro a
      have h1 := ih (base * a + x)
      have h2 := ih x
      simp only [value, List.foldl_cons, Nat.mul_zero, Nat.zero_add, List.length_cons] at *
      rw [h1, h2, Nat.pow_succ, Nat.mul_add, Nat.mul_assoc, Nat.add_assoc]

theorem length_block (base k n : Nat) : (block base k n).length = 2 ^ k := by
  induction k generalizing n with
  | zero => rfl
  | succ k ih => simp [block, ih, Nat.pow_succ, Nat.mul_two]

end ScalarWire.Radix
