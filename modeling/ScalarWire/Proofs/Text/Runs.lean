import Mathlib.Data.List.TakeWhile

/-!
# Runs at the ends of a text

A run of characters with a property ends where the first character without it stands. What is
dropped from the end of a text, where it is one character over and over, can be put back.
-/

namespace ScalarWire.Text

variable {α : Type} {p : α → Bool} {s rest : List α}

theorem dropWhile_of_head? (h : ∀ c ∈ s.head?, p c = false) : s.dropWhile p = s := by
  cases s with
  | nil => rfl
  | cons c s => exact List.dropWhile_cons_of_neg (by simp [h c rfl])

theorem takeWhile_of_head? (h : ∀ c ∈ s.head?, p c = false) : s.takeWhile p = [] := by
  cases s with
  | nil => rfl
  | cons c s => exact List.takeWhile_cons_of_neg (by simp [h c rfl])

theorem takeWhile_append_of_head? (hs : ∀ c ∈ s, p c) (hr : ∀ c ∈ rest.head?, p c = false) :
    (s ++ rest).takeWhile p = s := by
  rw [List.takeWhile_append_of_pos hs, takeWhile_of_head? hr, List.append_nil]

theorem dropWhile_append_of_head? (hs : ∀ c ∈ s, p c) (hr : ∀ c ∈ rest.head?, p c = false) :
    (s ++ rest).dropWhile p = rest := by
  rw [List.dropWhile_append_of_pos hs, dropWhile_of_head? hr]

/-- A run that ends before what is appended is the same with it. -/
theorem takeWhile_append_of_ends (hr : ∀ c ∈ rest.head?, p c = false) :
    (s ++ rest).takeWhile p = s.takeWhile p := by
  induction s with
  | nil => exact takeWhile_of_head? hr
  | cons c s ih =>
      rw [List.cons_append, List.takeWhile_cons, List.takeWhile_cons, ih]

theorem dropWhile_append_of_ends (hr : ∀ c ∈ rest.head?, p c = false) :
    (s ++ rest).dropWhile p = s.dropWhile p ++ rest := by
  induction s with
  | nil => exact dropWhile_of_head? hr
  | cons c s ih =>
      rw [List.cons_append, List.dropWhile_cons, List.dropWhile_cons, ih]
      split <;> rfl

theorem dropWhile_append_of_ne_nil (h : s.dropWhile p ≠ []) :
    (s ++ rest).dropWhile p = s.dropWhile p ++ rest := by
  rw [List.dropWhile_append, if_neg (by simpa using h)]

theorem takeWhile_append_of_ne_nil (h : s.dropWhile p ≠ []) :
    (s ++ rest).takeWhile p = s.takeWhile p := by
  induction s with
  | nil => exact absurd rfl h
  | cons c s ih =>
      rw [List.cons_append, List.takeWhile_cons, List.takeWhile_cons]
      by_cases hc : p c
      · rw [List.dropWhile_cons_of_pos hc] at h
        rw [ih h]
      · rw [if_neg hc, if_neg hc]

theorem eq_reverse_dropWhile_append [BEq α] [LawfulBEq α] (a : α) (s : List α) :
    ∃ k, s = (s.reverse.dropWhile (· == a)).reverse ++ List.replicate k a := by
  refine ⟨(s.reverse.takeWhile (· == a)).length, ?_⟩
  have hrun : s.reverse.takeWhile (· == a) =
      List.replicate (s.reverse.takeWhile (· == a)).length a := by
    rw [List.eq_replicate_iff]
    exact ⟨rfl, fun b hb => by simpa using List.mem_takeWhile_imp hb⟩
  have hsplit := congrArg List.reverse
    (List.takeWhile_append_dropWhile (p := (· == a)) (l := s.reverse))
  rw [List.reverse_append, List.reverse_reverse, hrun, List.reverse_replicate] at hsplit
  exact hsplit.symm

end ScalarWire.Text
