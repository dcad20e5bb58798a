import Mathlib.Order.Bounds.Basic
import Mathlib.Tactic.SplitIfs
import ScalarWire.Zone.Region

/-!
# Phases of a region

The spans of a region whose changes come in order divide the seconds of UTC among its phases. So the
phase found for a wall-clock time is that of the latest second of UTC at which clocks show it.
-/

namespace ScalarWire

namespace Span

/-- The seconds of UTC during which a span is in force. -/
def Contains (s : Span) (i : Int) : Prop :=
  (∀ start ∈ s.start?, start ≤ i) ∧ ∀ stop ∈ s.stop?, i < stop

/-- Clocks show a second during a span if they do so at one of the seconds in it. -/
theorem shows_iff (s : Span) (second : Int) :
    s.shows second ↔ s.Contains (second - s.phase.total.east) := by
  obtain ⟨start?, stop?, phase⟩ := s
  cases start? <;> cases stop? <;>
    simp [shows, Contains] <;> omega

/-- The phase in force after the changes up to a second. -/
def phaseFrom (phase : Phase) (later : List (Int × Phase)) (i : Int) : Phase :=
  later.foldl (fun phase (start, next) => if start ≤ i then next else phase) phase

variable {start? : Option Int} {start i j : Int} {phase next : Phase} {later : List (Int × Phase)}
  {s : Span}

theorem phaseFrom_cons :
    phaseFrom phase ((start, next) :: later) i =
      phaseFrom (if start ≤ i then next else phase) later i := rfl

/-- Nothing changes between two seconds unless a phase begins there. -/
theorem phaseFrom_congr (h : ∀ change ∈ later.map (·.1), change ≤ i ↔ change ≤ j) :
    phaseFrom phase later i = phaseFrom phase later j := by
  induction later generalizing phase with
  | nil => rfl
  | cons change later ih =>
      obtain ⟨start, next⟩ := change
      rw [List.map_cons, List.forall_mem_cons] at h
      rw [phaseFrom_cons, phaseFrom_cons, ih h.2]
      simp only [h.1]

theorem phaseFrom_of_forall_lt (h : ∀ change ∈ later.map (·.1), i < change) :
    phaseFrom phase later i = phase := by
  induction later generalizing phase with
  | nil => rfl
  | cons change later ih =>
      obtain ⟨start, next⟩ := change
      rw [List.map_cons, List.forall_mem_cons] at h
      rw [phaseFrom_cons, if_neg (not_le.mpr h.1), ih h.2]

theorem le_of_mem_chain (hsorted : (start :: later.map (·.1)).Pairwise (· < ·))
    (hs : s ∈ chain (some start) phase later) (hi : s.Contains i) : start ≤ i := by
  induction later generalizing start phase with
  | nil =>
      rw [chain, List.mem_singleton] at hs
      subst hs
      exact hi.1 start rfl
  | cons change later ih =>
      obtain ⟨next, _⟩ := change
      rw [List.map_cons, List.pairwise_cons] at hsorted
      rw [chain, List.mem_cons] at hs
      rcases hs with rfl | hs
      · exact hi.1 start rfl
      · exact (hsorted.1 next List.mem_cons_self).le.trans (ih hsorted.2 hs)

/-- Every second from the first on lies in a span. -/
theorem exists_mem_chain (h : ∀ start ∈ start?, start ≤ i) :
    ∃ s ∈ chain start? phase later, s.Contains i := by
  induction later generalizing start? phase with
  | nil => exact ⟨_, List.mem_singleton_self _, h, nofun⟩
  | cons change later ih =>
      obtain ⟨next, _⟩ := change
      by_cases hi : i < next
      · exact ⟨_, List.mem_cons_self, h, fun stop hstop => Option.mem_some.mp hstop ▸ hi⟩
      · have hbegun : ∀ start ∈ some next, start ≤ i := fun start hstart =>
          Option.mem_some.mp hstart ▸ not_lt.mp hi
        obtain ⟨s, hs, hcontains⟩ := ih hbegun
        exact ⟨s, List.mem_cons_of_mem _ hs, hcontains⟩

/-- The phase in force at a second is that of the span in which it lies. -/
theorem phaseFrom_of_mem_chain (hsorted : (later.map (·.1)).Pairwise (· < ·))
    (hs : s ∈ chain start? phase later) (hi : s.Contains i) :
    phaseFrom phase later i = s.phase := by
  induction later generalizing start? phase with
  | nil =>
      rw [chain, List.mem_singleton] at hs
      subst hs
      rfl
  | cons change later ih =>
      obtain ⟨next, _⟩ := change
      rw [chain, List.mem_cons] at hs
      rcases hs with rfl | hs
      · have hlt : i < next := hi.2 next rfl
        apply phaseFrom_of_forall_lt
        rw [List.map_cons, List.pairwise_cons] at hsorted
        rw [List.map_cons, List.forall_mem_cons]
        exact ⟨hlt, fun change hchange => hlt.trans (hsorted.1 change hchange)⟩
      · rw [phaseFrom_cons, if_pos (le_of_mem_chain hsorted hs hi)]
        exact ih hsorted.of_cons hs

theorem pairwise_chain (hsorted : (later.map (·.1)).Pairwise (· < ·)) :
    (chain start? phase later).Pairwise fun s t =>
      ∀ i j, s.Contains i → t.Contains j → i < j := by
  induction later generalizing start? phase with
  | nil => exact List.pairwise_singleton _ _
  | cons change later ih =>
      obtain ⟨next, _⟩ := change
      refine List.pairwise_cons.mpr ⟨fun t ht i j hi hj => ?_, ih hsorted.of_cons⟩
      exact lt_of_lt_of_le (hi.2 next rfl) (le_of_mem_chain hsorted ht hj)

end Span

namespace Region

variable {r : Region} {i j s : Int}

/-- The seconds of UTC in which the later phases begin. -/
def changes (r : Region) : List Int :=
  r.later.map (·.1)

/-- The second that clocks of the region show at a second of UTC, both counted from 1970. -/
def wallAt (r : Region) (i : Int) : Int :=
  i + (r.phaseAt i).total.east

theorem phaseAt_congr (h : ∀ change ∈ r.changes, change ≤ i ↔ change ≤ j) :
    r.phaseAt i = r.phaseAt j :=
  Span.phaseFrom_congr h

theorem exists_mem_spans (hsorted : r.changes.Pairwise (· < ·)) (i : Int) :
    ∃ span ∈ r.spans, span.Contains i ∧ r.phaseAt i = span.phase := by
  have hspans : ∃ span ∈ r.spans, span.Contains i := Span.exists_mem_chain nofun
  obtain ⟨span, hspan, hi⟩ := hspans
  exact ⟨span, hspan, hi, Span.phaseFrom_of_mem_chain hsorted hspan hi⟩

/-- A span shows what the clocks show at one of its seconds. -/
theorem shows_wallAt {span : Span} (hi : span.Contains i) (hphase : r.phaseAt i = span.phase) :
    span.shows (r.wallAt i) := by
  rw [Span.shows_iff, wallAt, hphase, Int.add_sub_cancel]
  exact hi

theorem wallAt_ne_of_phaseShowing? (hsorted : r.changes.Pairwise (· < ·))
    (h : r.phaseShowing? s = none) : ∀ i, r.wallAt i ≠ s := by
  rintro i rfl
  obtain ⟨span, hspan, hi, hphase⟩ := exists_mem_spans hsorted i
  rw [phaseShowing?, Option.map_eq_none_iff, List.getLast?_eq_none_iff,
    List.filter_eq_nil_iff] at h
  exact h span hspan (shows_wallAt hi hphase)

/-- The phase that shows a second is in force at the latest second of UTC at which clocks show
it. -/
theorem isGreatest_of_phaseShowing? (hsorted : r.changes.Pairwise (· < ·)) {phase : Phase}
    (h : r.phaseShowing? s = some phase) :
    IsGreatest {i | r.wallAt i = s} (s - phase.total.east) ∧
      r.phaseAt (s - phase.total.east) = phase := by
  obtain ⟨span, hlast, rfl⟩ := Option.map_eq_some_iff.mp h
  obtain ⟨init, hinit⟩ := List.getLast?_eq_some_iff.mp hlast
  have hmem : span ∈ r.spans.filter (·.shows s) := by
    rw [hinit]
    exact List.mem_append_right _ (List.mem_singleton_self _)
  obtain ⟨hspan, hshows⟩ := List.mem_filter.mp hmem
  have hcontains := (span.shows_iff s).mp hshows
  have hphase : r.phaseAt (s - span.phase.total.east) = span.phase :=
    Span.phaseFrom_of_mem_chain hsorted hspan hcontains
  refine ⟨⟨?_, ?_⟩, hphase⟩
  · change s - span.phase.total.east + (r.phaseAt (s - span.phase.total.east)).total.east = s
    rw [hphase, Int.sub_add_cancel]
  · -- An earlier span that shows the second ends before this one begins.
    rintro i rfl
    obtain ⟨other, hother, hi, hphase'⟩ := exists_mem_spans hsorted i
    have hmem' : other ∈ r.spans.filter (·.shows (r.wallAt i)) :=
      List.mem_filter.mpr ⟨hother, shows_wallAt hi hphase'⟩
    have hordered : (r.spans.filter (·.shows (r.wallAt i))).Pairwise _ :=
      (Span.pairwise_chain hsorted).filter _
    rw [hinit] at hmem' hordered
    rcases List.mem_append.mp hmem' with hbefore | hsame
    · exact ((List.pairwise_append.mp hordered).2.2 other hbefore span
        (List.mem_singleton_self _) i _ hi hcontains).le
    · rw [List.mem_singleton] at hsame
      rw [wallAt, hphase', hsame, Int.add_sub_cancel]

end Region

end ScalarWire
