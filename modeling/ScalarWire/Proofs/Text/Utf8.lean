import Mathlib.Tactic.SplitIfs
import ScalarWire.Text.Utf8

/-!
# Reading back UTF-8

The reader comes back to rest after the bytes of one character, with that character as the only
thing it has put out. So the bytes of any text are read as that text.
-/

namespace ScalarWire.Utf8

/-- The reader before a byte and behind it, together with all that it has put out. -/
def feed (state : Progress × List (Option Char)) (b : UInt8) : Progress × List (Option Char) :=
  ((step state.1 b.toNat).1, (step state.1 b.toNat).2 ++ state.2)

/-- What the reader has put out when the bytes end. -/
def finish (state : Progress × List (Option Char)) : List (Option Char) :=
  match state.1 with
  | .idle => state.2.reverse
  | .inside .. => (none :: state.2).reverse

theorem step_last {low high value b : Nat} (hlow : low ≤ b) (hhigh : b ≤ high) :
    step (.inside 1 low high value) b = (.idle, [some (Char.ofNat (value * 64 + (b - 0x80)))]) := by
  simp only [step, if_pos (And.intro hlow hhigh), if_true]

theorem step_more {left low high value b : Nat} (hlow : low ≤ b) (hhigh : b ≤ high) :
    step (.inside (left + 2) low high value) b =
      (.inside (left + 1) 0x80 0xBF (value * 64 + (b - 0x80)), []) := by
  simp only [step, if_pos (And.intro hlow hhigh), if_neg (show ¬left + 2 = 1 by omega),
    Nat.add_succ_sub_one]

theorem start_one {b : Nat} (h : b < 0x80) : start b = (.idle, [some (Char.ofNat b)]) :=
  if_pos h

theorem start_two {b : Nat} (hlow : 0xC2 ≤ b) (hhigh : b < 0xE0) :
    start b = (.inside 1 0x80 0xBF (b - 0xC0), []) := by
  rw [start, if_neg (by omega), if_neg (by omega), if_pos hhigh]

theorem start_three {b : Nat} (hlow : 0xE0 ≤ b) (hhigh : b < 0xF0) :
    start b = (.inside 2 (if b = 0xE0 then 0xA0 else 0x80) (if b = 0xED then 0x9F else 0xBF)
      (b - 0xE0), []) := by
  rw [start, if_neg (by omega), if_neg (by omega), if_neg (by omega), if_pos hhigh]

theorem start_four {b : Nat} (hlow : 0xF0 ≤ b) (hhigh : b < 0xF5) :
    start b = (.inside 3 (if b = 0xF0 then 0x90 else 0x80) (if b = 0xF4 then 0x8F else 0xBF)
      (b - 0xF0), []) := by
  rw [start, if_neg (by omega), if_neg (by omega), if_neg (by omega), if_neg (by omega),
    if_pos hhigh]

theorem toNat_ofNat {n : Nat} (h : n < 256) : (UInt8.ofNat n).toNat = n := by
  rw [UInt8.toNat_ofNat', Nat.mod_eq_of_lt h]

/-- A character is no surrogate and at most the last one. -/
theorem toNat_valid (c : Char) :
    c.toNat < 0xD800 ∨ 0xDFFF < c.toNat ∧ c.toNat < 0x110000 :=
  c.valid

/-- The bytes of one character, fed to a reader at rest. -/
theorem foldl_feed_utf8EncodeChar (c : Char) (out : List (Option Char)) :
    (String.utf8EncodeChar c).foldl feed (.idle, out) = (.idle, some c :: out) := by
  have hvalid := toNat_valid c
  have hc : Char.ofNat c.toNat = c := Char.ofNat_toNat c
  simp only [String.utf8EncodeChar, show c.val.toNat = c.toNat from rfl]
  generalize c.toNat = v at hvalid hc ⊢
  split_ifs with h1 h2 h3
  · rw [List.foldl_cons, List.foldl_nil, feed, toNat_ofNat (by omega), step, start_one (by omega),
      hc]
    rfl
  · have hv : (v / 64 % 32 + 0xC0 - 0xC0) * 64 + (v % 64 + 0x80 - 0x80) = v := by omega
    simp only [List.foldl_cons, List.foldl_nil, feed]
    rw [toNat_ofNat (by omega), toNat_ofNat (by omega), step, start_two (by omega) (by omega),
      step_last (by omega) (by omega), hv, hc]
    rfl
  · have hv : ((v / 4096 % 16 + 0xE0 - 0xE0) * 64 + (v / 64 % 64 + 0x80 - 0x80)) * 64 +
        (v % 64 + 0x80 - 0x80) = v := by omega
    simp only [List.foldl_cons, List.foldl_nil, feed]
    rw [toNat_ofNat (by omega), toNat_ofNat (by omega), toNat_ofNat (by omega), step,
      start_three (by omega) (by omega),
      step_more (by split_ifs <;> omega) (by split_ifs <;> omega),
      step_last (by omega) (by omega), hv, hc]
    rfl
  · have hv : (((v / 262144 % 8 + 0xF0 - 0xF0) * 64 + (v / 4096 % 64 + 0x80 - 0x80)) * 64 +
        (v / 64 % 64 + 0x80 - 0x80)) * 64 + (v % 64 + 0x80 - 0x80) = v := by omega
    simp only [List.foldl_cons, List.foldl_nil, feed]
    rw [toNat_ofNat (by omega), toNat_ofNat (by omega), toNat_ofNat (by omega),
      toNat_ofNat (by omega), step, start_four (by omega) (by omega),
      step_more (by split_ifs <;> omega) (by split_ifs <;> omega),
      step_more (by omega) (by omega), step_last (by omega) (by omega), hv, hc]
    rfl

theorem foldl_feed_encode (s : List Char) (out : List (Option Char)) :
    (encode s).foldl feed (.idle, out) = (.idle, (s.map some).reverse ++ out) := by
  induction s generalizing out with
  | nil => rfl
  | cons c s ih =>
      rw [encode, List.flatMap_cons, List.foldl_append, foldl_feed_utf8EncodeChar, ← encode, ih,
        List.map_cons, List.reverse_cons, List.append_assoc, List.singleton_append]

theorem scan_eq_finish (bytes : List UInt8) :
    scan bytes = finish (bytes.foldl feed (.idle, [])) := rfl

theorem scan_encode (s : List Char) : scan (encode s) = s.map some := by
  rw [scan_eq_finish, foldl_feed_encode, finish, List.append_nil, List.reverse_reverse]

/-- The bytes of a text are read as that text. -/
theorem decode?_encode (s : List Char) : decode? (encode s) = some s := by
  rw [decode?, scan_encode, if_pos (by simp), List.filterMap_map]
  simp

end ScalarWire.Utf8
