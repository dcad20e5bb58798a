import Mathlib.Data.Int.LeastGreatest
import Mathlib.Data.List.Pairwise
import ScalarWire.Proofs.Calendar.Timestamp
import ScalarWire.Proofs.Zone.Phase
import ScalarWire.Zone.Excerpt

/-!
# From wall-clock time to an offset

Where the clocks of a region are changed two days apart or more, a time that they show is taken for
the latest second of UTC at which they do. A time that a change skips takes the offset before that
change if it lies less than four hours behind it, and else the standard offset of the region: a
change of the date line skips a whole day.
-/

namespace ScalarWire

namespace Region

/-- Clocks are changed two days apart or more, and not in the first two days of the calendar. -/
def IsRegular (r : Region) : Prop :=
  (Timestamp.first.unixSeconds :: r.changes).IsChain fun a b => a + 172800 ≤ b

instance (r : Region) : Decidable r.IsRegular :=
  inferInstanceAs (Decidable (List.IsChain _ _))

/-- A change of the clocks leaves a second out. -/
def Skips (r : Region) (change second : Int) : Prop :=
  r.wallAt (change - 1) < second ∧ second < r.wallAt change

variable {r : Region} {change i j s : Int}

namespace IsRegular

theorem pairwise (h : r.IsRegular) :
    (Timestamp.first.unixSeconds :: r.changes).Pairwise fun a b => a + 172800 ≤ b := by
  have : Trans (fun a b : Int => a + 172800 ≤ b) (fun a b => a + 172800 ≤ b)
      (fun a b => a + 172800 ≤ b) := ⟨fun hab hbc => by omega⟩
  exact List.isChain_iff_pairwise.mp h

theorem sorted (h : r.IsRegular) : r.changes.Pairwise (· < ·) :=
  h.pairwise.of_cons.imp fun hab => by omega

theorem first_le (h : r.IsRegular) (hc : change ∈ r.changes) :
    Timestamp.first.unixSeconds + 172800 ≤ change :=
  (List.pairwise_cons.mp h.pairwise).1 change hc

theorem apart (h : r.IsRegular) (hi : i ∈ r.changes) (hj : j ∈ r.changes) :
    i = j ∨ i + 172800 ≤ j ∨ j + 172800 ≤ i := by
  have hapart : r.changes.Pairwise fun i j => i + 172800 ≤ j ∨ j + 172800 ≤ i :=
    h.pairwise.of_cons.imp Or.inl
  have : Std.Symm fun i j : Int => i + 172800 ≤ j ∨ j + 172800 ≤ i := ⟨fun _ _ => Or.symm⟩
  exact or_iff_not_imp_left.mpr (hapart.forall hi hj)

/-- Within two days of a change the clocks keep one offset on either side of it. -/
theorem phaseAt_eq (h : r.IsRegular) (hc : change ∈ r.changes)
    (hi : change - 172800 ≤ i ∧ i < change + 172800)
    (hj : change - 172800 ≤ j ∧ j < change + 172800) (hside : i < change ↔ j < change) :
    r.phaseAt i = r.phaseAt j := by
  apply phaseAt_congr
  intro other hother
  have := h.apart hc hother
  omega

/-- No offset reaches over the two days between changes, so what clocks show never falls behind
what they show right at a change, nor comes before a change ahead of what they show last. -/
theorem wallAt_le (h : r.IsRegular) (hc : change ∈ r.changes) (hle : i ≤ j)
    (hat : i = change ∨ j = change - 1) : r.wallAt i ≤ r.wallAt j := by
  have hwithin := (r.phaseAt i).total.within_day
  have hwithin' := (r.phaseAt j).total.within_day
  unfold wallAt
  by_cases hnear : j < i + 172800
  · rw [h.phaseAt_eq hc (i := i) (j := j) (by omega) (by omega) (by omega)]
    omega
  · omega

end IsRegular

namespace Skips

/-- Clocks that run on leave nothing out. -/
theorem mem_changes (h : r.Skips change s) : change ∈ r.changes := by
  obtain ⟨hlow, hhigh⟩ := h
  by_contra hc
  have hsame : r.phaseAt (change - 1) = r.phaseAt change := by
    apply phaseAt_congr
    intro other hother
    have hne : other ≠ change := fun heq => hc (heq ▸ hother)
    omega
  rw [wallAt] at hlow hhigh
  rw [hsame] at hlow
  omega

theorem wallAt_ne (h : r.Skips change s) (hr : r.IsRegular) : ∀ i, r.wallAt i ≠ s := by
  obtain ⟨hlow, hhigh⟩ := id h
  intro i
  rcases lt_or_ge i change with hi | hi
  · have := hr.wallAt_le h.mem_changes (Int.le_sub_one_of_lt hi) (Or.inr rfl)
    omega
  · have := hr.wallAt_le h.mem_changes hi (Or.inl rfl)
    omega

theorem phaseShowing?_eq_none (h : r.Skips change s) (hr : r.IsRegular) :
    r.phaseShowing? s = none := by
  cases hshowing : r.phaseShowing? s with
  | none => rfl
  | some phase =>
      exact absurd (isGreatest_of_phaseShowing? hr.sorted hshowing).1.1 (h.wallAt_ne hr _)

/-- On the day before a change that skips a time, the offset before the change shows the clocks. -/
theorem phaseShowing?_before (h : r.Skips change s) (hr : r.IsRegular)
    (hlow : r.wallAt (change - 1) - 86400 ≤ i) (hhigh : i ≤ r.wallAt (change - 1)) :
    r.phaseShowing? i = some (r.phaseAt (change - 1)) := by
  have hc := h.mem_changes
  have hjump := h.1.trans h.2
  have hat : r.wallAt (i - (r.phaseAt (change - 1)).total.east) = i ∧
      i - (r.phaseAt (change - 1)).total.east < change := by
    have hsame := hr.phaseAt_eq hc (i := i - (r.phaseAt (change - 1)).total.east) (j := change - 1)
    rw [wallAt] at hlow hhigh
    rw [wallAt, hsame (by omega) (by omega) (by omega)]
    omega
  cases hshowing : r.phaseShowing? i with
  | none => exact absurd hat.1 (wallAt_ne_of_phaseShowing? hr.sorted hshowing _)
  | some phase =>
      obtain ⟨⟨hshown, hgreatest⟩, hphase⟩ := isGreatest_of_phaseShowing? hr.sorted hshowing
      have hle := hgreatest hat.1
      have hlt : i - phase.total.east < change := by
        by_contra hge
        have hafter := hr.wallAt_le hc (not_lt.mp hge) (Or.inl rfl)
        have hshown' : r.wallAt (i - phase.total.east) = i := hshown
        omega
      rw [wallAt] at hlow
      rw [← hphase, hr.phaseAt_eq hc (j := change - 1) (by omega) (by omega) (by omega)]

end Skips

/-- A time that clocks do not show is skipped by a change: the first second at which they are past
it begins a phase. -/
theorem exists_skips (h : ∀ i, r.wallAt i ≠ s) : ∃ change, r.Skips change s := by
  have hbound : ∀ i, s < r.wallAt i → s - 86400 ≤ i := by
    intro i hi
    have := (r.phaseAt i).total.within_day
    rw [wallAt] at hi
    omega
  have hpast : s < r.wallAt (s + 86400) := by
    have := (r.phaseAt (s + 86400)).total.within_day
    rw [wallAt]
    omega
  obtain ⟨change, hchange, hleast⟩ := Int.exists_least_of_bdd ⟨_, hbound⟩ ⟨_, hpast⟩
  refine ⟨change, lt_of_le_of_ne ?_ (h _), hchange⟩
  by_contra hlt
  have := hleast (change - 1) (not_le.mp hlt)
  omega

section offsetAt

variable {wall : Timestamp}

/-- The offset that clocks showed a number of half hours before a time. -/
def offsetBefore? (r : Region) (wall : Timestamp) (step : Nat) : Option Offset :=
  (wall.addSeconds? (-1800 * step)).bind fun t => (r.phaseShowing? t.unixSeconds).map (·.total)

theorem offsetAt_of_shown {phase : Phase} (h : r.phaseShowing? wall.unixSeconds = some phase) :
    r.offsetAt wall = phase.total := by
  simp only [offsetAt, h, Option.map_some]

theorem offsetAt_of_not_shown (h : r.phaseShowing? wall.unixSeconds = none) :
    r.offsetAt wall =
      ((List.range' 1 8).findSome? (r.offsetBefore? wall)).getD r.standardOffset := by
  simp only [offsetAt, h, Option.map_none]
  rfl

/-- Going back from a skipped time, the offset before the change is found as soon as the change is
passed. -/
theorem Skips.offsetBefore?_eq (h : r.Skips change wall.unixSeconds) (hr : r.IsRegular) {step : Nat}
    (hstep : 1 ≤ step ∧ step ≤ 8) :
    r.offsetBefore? wall step =
      if wall.elapsedSeconds ≤ r.wallAt (change - 1) + 1800 * step then
        some (r.phaseAt (change - 1)).total
      else none := by
  obtain ⟨hlow, hhigh⟩ := id h
  have hfirst := hr.first_le h.mem_changes
  have hwithin := (r.phaseAt (change - 1)).total.within_day
  have hwall : r.wallAt (change - 1) = change - 1 + (r.phaseAt (change - 1)).total.east := rfl
  have hle := wall.unixSeconds_le_elapsedSeconds
  have hle' := wall.elapsedSeconds_le
  have hback : ∃ t, wall.addSeconds? (-1800 * step) = some t :=
    Timestamp.exists_addSeconds? (by omega) (by omega)
  obtain ⟨t, ht⟩ := hback
  have hsecond := Timestamp.unixSeconds_of_addSeconds? ht
  rw [offsetBefore?, ht, Option.bind_some]
  split_ifs with hpassed
  · rw [h.phaseShowing?_before hr (by omega) (by omega), Option.map_some]
  · have hskips : r.Skips change t.unixSeconds := ⟨by omega, by omega⟩
    rw [hskips.phaseShowing?_eq_none hr, Option.map_none]

/-- Eight half hours back is how far the offset before the change is looked for. -/
theorem Skips.offsetAt_eq (h : r.Skips change wall.unixSeconds) (hr : r.IsRegular) :
    r.offsetAt wall =
      if wall.elapsedSeconds ≤ r.wallAt (change - 1) + 14400 then (r.phaseAt (change - 1)).total
      else r.standardOffset := by
  rw [offsetAt_of_not_shown (h.phaseShowing?_eq_none hr)]
  have hsteps : ∀ step ∈ List.range' 1 8, r.offsetBefore? wall step =
      if wall.elapsedSeconds ≤ r.wallAt (change - 1) + 1800 * step then
        some (r.phaseAt (change - 1)).total
      else none := by
    intro step hstep
    rw [List.mem_range'_1] at hstep
    exact h.offsetBefore?_eq hr (by omega)
  split_ifs with hnear
  · have hfound : ((List.range' 1 8).findSome? (r.offsetBefore? wall)).isSome := by
      rw [List.findSome?_isSome_iff]
      refine ⟨8, by decide, ?_⟩
      rw [hsteps 8 (by decide), if_pos (by omega)]
      rfl
    obtain ⟨offset, hoffset⟩ := Option.isSome_iff_exists.mp hfound
    obtain ⟨step, hstep, hat⟩ := List.exists_of_findSome?_eq_some hoffset
    rw [hsteps step hstep] at hat
    rw [hoffset, Option.getD_some]
    split_ifs at hat
    exact (Option.some.inj hat).symm
  · have hnone : (List.range' 1 8).findSome? (r.offsetBefore? wall) = none := by
      rw [List.findSome?_eq_none_iff]
      intro step hstep
      have hle := (List.mem_range'_1.mp hstep).2
      rw [hsteps step hstep, if_neg (by omega)]
    rw [hnone, Option.getD_none]

/-- A time that clocks show is taken for the latest second of UTC at which they show it, and its
offset is the one in force there. -/
theorem isGreatest_of_shown (hr : r.IsRegular) (hi : r.wallAt i = wall.unixSeconds) :
    IsGreatest {j | r.wallAt j = wall.unixSeconds} (wall.unixSeconds - (r.offsetAt wall).east) ∧
      (r.phaseAt (wall.unixSeconds - (r.offsetAt wall).east)).total = r.offsetAt wall := by
  cases hshowing : r.phaseShowing? wall.unixSeconds with
  | none => exact absurd hi (wallAt_ne_of_phaseShowing? hr.sorted hshowing i)
  | some phase =>
      obtain ⟨hgreatest, hphase⟩ := isGreatest_of_phaseShowing? hr.sorted hshowing
      rw [offsetAt_of_shown hshowing, hphase]
      exact ⟨hgreatest, rfl⟩

theorem isRegular_of_mem_excerpt : ∀ r ∈ RegionDatabase.excerpt.regions, r.IsRegular := by
  decide +kernel

/-- In a region whose clocks are changed two days apart or more, a wall-clock time gets the offset of
the latest second of UTC at which clocks show it. One that is skipped gets the offset in force
before the change that skips it if it comes within four hours of that change, and otherwise the
standard offset. -/
theorem offsetAt_latest_or_before_skip (r : Region) (hr : r.IsRegular) (wall : Timestamp) :
    ((∃ i, r.wallAt i = wall.unixSeconds) →
      IsGreatest {i | r.wallAt i = wall.unixSeconds} (wall.unixSeconds - (r.offsetAt wall).east) ∧
        (r.phaseAt (wall.unixSeconds - (r.offsetAt wall).east)).total = r.offsetAt wall) ∧
    ((∀ i, r.wallAt i ≠ wall.unixSeconds) →
      (∃ change, r.Skips change wall.unixSeconds) ∧
        ∀ change, r.Skips change wall.unixSeconds →
          r.offsetAt wall =
            if wall.elapsedSeconds ≤ r.wallAt (change - 1) + 14400 then
              (r.phaseAt (change - 1)).total
            else r.standardOffset) := by
  refine ⟨fun ⟨i, hi⟩ => isGreatest_of_shown hr hi, fun hnot => ⟨exists_skips hnot, ?_⟩⟩
  exact fun change hskips => hskips.offsetAt_eq hr

/-- On 2 November 2008 clocks in New York show half past one twice, and on 9 March half past two not
at all. -/
theorem offsetAt_latest_or_before_skip_new_york :
    let back : Timestamp := ⟨⟨2008, 11, 2, by decide⟩, ⟨5400, 0, by decide, by decide⟩⟩
    let forward : Timestamp := ⟨⟨2008, 3, 9, by decide⟩, ⟨9000, 0, by decide, by decide⟩⟩
    newYork.IsRegular ∧ newYork.wallAt 1225603800 = back.unixSeconds ∧
      newYork.Skips 1205046000 forward.unixSeconds ∧
        IsGreatest {i | newYork.wallAt i = back.unixSeconds}
          (back.unixSeconds - (newYork.offsetAt back).east) ∧
        newYork.offsetAt forward = (newYork.phaseAt (1205046000 - 1)).total := by
  intro back forward
  have hr : newYork.IsRegular := isRegular_of_mem_excerpt newYork (by decide +kernel)
  have hback : newYork.wallAt 1225603800 = back.unixSeconds := by decide +kernel
  have hskips : newYork.Skips 1205046000 forward.unixSeconds :=
    ⟨by decide +kernel, by decide +kernel⟩
  obtain ⟨hshown, -⟩ := offsetAt_latest_or_before_skip newYork hr back
  obtain ⟨-, hskipped⟩ := offsetAt_latest_or_before_skip newYork hr forward
  refine ⟨hr, hback, hskips, (hshown ⟨_, hback⟩).1, ?_⟩
  rw [(hskipped (hskips.wallAt_ne hr)).2 _ hskips]
  exact if_pos (by decide +kernel)

/-- Samoa went over to the other side of the date line at the end of 29 December 2011. Noon of the
day left out does not get the offset in force before that. -/
theorem offsetAt_ne_before_skip_samoa :
    let wall : Timestamp := ⟨⟨2011, 12, 30, by decide⟩, ⟨43200, 0, by decide, by decide⟩⟩
    apia.Skips 1325239200 wall.unixSeconds ∧ (∀ i, apia.wallAt i ≠ wall.unixSeconds) ∧
      (apia.phaseAt (1325239200 - 1)).total.east = -36000 ∧
        (apia.offsetAt wall).east = -39600 := by
  intro wall
  have hr : apia.IsRegular := isRegular_of_mem_excerpt apia (by decide +kernel)
  have hskips : apia.Skips 1325239200 wall.unixSeconds := ⟨by decide +kernel, by decide +kernel⟩
  exact ⟨hskips, hskips.wallAt_ne hr, by decide +kernel, by decide +kernel⟩

end offsetAt

end Region

end ScalarWire
