import Interpolation.Proofs.Gaps
import Mathlib.Data.List.Forall2

set_option autoImplicit false

namespace Interpolation

open Text

structure Stretch where
  start : Nat
  stop : Nat
deriving DecidableEq, Repr

namespace Stretch

def Holds (stretch : Stretch) (position : Nat) : Prop := stretch.start ≤ position ∧ position < stretch.stop

instance (stretch : Stretch) (position : Nat) : Decidable (stretch.Holds position) :=
  inferInstanceAs (Decidable (_ ∧ _))

def Cuts (t : Text) (stretch : Stretch) (piece : Text) : Prop :=
  ∃ left right, t = left ++ (piece ++ right) ∧ bytes left = stretch.start ∧ bytes left + bytes piece = stretch.stop

end Stretch

namespace Reference

def span (reference : Reference) : Stretch := ⟨reference.start, reference.stop⟩

structure Fits (input : Text) (reference : Reference) : Prop where
  start : IsBoundary reference.start input
  stop : IsBoundary reference.stop input
  forward : reference.start ≤ reference.stop

end Reference

theorem Reference.fits_iff (input : Text) (reference : Reference) :
    reference.Fits input ↔ IsBoundary reference.start input ∧ IsBoundary reference.stop input ∧
      reference.start ≤ reference.stop :=
  ⟨fun fits => ⟨fits.start, fits.stop, fits.forward⟩, fun fits => ⟨fits.1, fits.2.1, fits.2.2⟩⟩

instance (input : Text) (reference : Reference) : Decidable (reference.Fits input) :=
  decidable_of_iff _ (reference.fits_iff input).symm

def Uncovered (size : Nat) (references : List Reference) (position : Nat) : Prop :=
  position < size ∧ ∀ reference ∈ references, ¬ reference.span.Holds position

instance (size : Nat) (references : List Reference) (position : Nat) :
    Decidable (Uncovered size references position) := inferInstanceAs (Decidable (_ ∧ _))

def stretches (size : Nat) : Nat → List Reference → List Stretch
  | reached, [] => [⟨reached, size⟩]
  | reached, reference :: rest =>
      ⟨reached, max reached reference.start⟩ :: stretches size (max reached reference.stop) rest

-- How the gaps behind the first reference are trimmed: between two references the first closing mark goes, then the
-- last opening mark of what is left; behind the last one the last closing mark.
inductive LaterTrimmed (marker : Marker) : List Text → List Text → Prop where
  | last (gap raw : Text) (closed : LastErased marker.closing gap raw) : LaterTrimmed marker [gap] [raw]
  | between (gap unclosed raw : Text) (gaps raws : List Text) (closed : FirstErased marker.closing gap unclosed)
      (opened : LastErased marker.opening unclosed raw) (later : LaterTrimmed marker gaps raws) :
      LaterTrimmed marker (gap :: gaps) (raw :: raws)

inductive Trimmed (marker : Marker) : List Text → List Text → Prop where
  | first (gap raw : Text) (gaps raws : List Text) (opened : LastErased marker.opening gap raw)
      (later : LaterTrimmed marker gaps raws) : Trimmed marker (gap :: gaps) (raw :: raws)

theorem boundary_in_range (position : Nat) (t : Text) (boundary : IsBoundary position t) : position ≤ bytes t := by
  obtain ⟨left, right, rfl, rfl⟩ := boundary
  exact bytes_prefix left _ (List.prefix_append left right)

theorem boundary_max (a b : Nat) (t : Text) (first : IsBoundary a t) (second : IsBoundary b t) :
    IsBoundary (max a b) t := by
  by_cases order : a ≤ b
  · rwa [Nat.max_eq_right order]
  · rwa [Nat.max_eq_left (by omega)]

theorem between_cuts (t : Text) (start stop : Nat) (first : IsBoundary start t) (second : IsBoundary stop t)
    (forward : start ≤ stop) : Stretch.Cuts t ⟨start, stop⟩ (between start stop t) := by
  obtain ⟨left, rest, rfl, rfl⟩ := first
  obtain ⟨upper, right, eq, rfl⟩ := second
  obtain ⟨middle, rfl⟩ := prefix_of_bytes left upper _ (List.prefix_append left rest) ⟨right, eq.symm⟩ forward
  rw [List.append_assoc] at eq
  obtain rfl : rest = middle ++ right := List.append_cancel_left eq
  rw [bytes_append, between_bytes]
  exact ⟨left, right, rfl, rfl, rfl⟩

theorem between_backward (t : Text) (start stop : Nat) (backward : stop ≤ start) : between start stop t = [] := by
  cases upper : cutAt? stop t with
  | none => simp [between, upper]
  | some pieces =>
      obtain ⟨_, size⟩ := (cut_at_some_iff stop t pieces.1 pieces.2).mp upper
      cases lower : cutAt? start pieces.1 with
      | none => simp [between, upper, lower]
      | some inner =>
          obtain ⟨split, inside⟩ := (cut_at_some_iff start _ inner.1 inner.2).mp lower
          have total := congrArg bytes split
          rw [bytes_append] at total
          have nothing : inner.2 = [] := (bytes_zero_iff _).mp (by omega)
          simp [between, upper, lower, nothing]

theorem onward_between (t : Text) (start : Nat) : onward start t = between start (bytes t) t := by
  have whole := cut_at_bytes t []
  rw [List.append_nil] at whole
  rw [onward, between, whole]

theorem gap_cuts (t : Text) (reached start : Nat) (first : IsBoundary reached t) (second : IsBoundary start t) :
    Stretch.Cuts t ⟨reached, max reached start⟩ (between reached start t) := by
  by_cases forward : reached ≤ start
  · rw [Nat.max_eq_right forward]
    exact between_cuts t reached start first second forward
  · have empty := between_backward t reached start (by omega)
    have nowhere := between_cuts t reached reached first first (Nat.le_refl _)
    rw [between_backward t reached reached (Nat.le_refl _)] at nowhere
    rwa [Nat.max_eq_left (by omega), empty]

theorem gaps_cut (input : Text) (reached : Nat) (references : List Reference) (boundary : IsBoundary reached input)
    (fits : ∀ reference ∈ references, reference.Fits input) :
    List.Forall₂ (Stretch.Cuts input) (stretches (bytes input) reached references) (gaps input reached references) := by
  induction references generalizing reached with
  | nil =>
      have last : IsBoundary (bytes input) input := ⟨input, [], by simp, rfl⟩
      rw [gaps, onward_between]
      exact .cons (between_cuts input reached _ boundary last (boundary_in_range reached input boundary)) .nil
  | cons reference rest ih =>
      obtain ⟨here, others⟩ := List.forall_mem_cons.mp fits
      exact .cons (gap_cuts input reached _ boundary here.start)
        (ih _ (boundary_max _ _ input boundary here.stop) others)

theorem stretches_behind (size reached : Nat) (references : List Reference) (stretch : Stretch)
    (member : stretch ∈ stretches size reached references) : reached ≤ stretch.start := by
  induction references generalizing reached with
  | nil => exact Nat.le_of_eq (congrArg Stretch.start (List.mem_singleton.mp member)).symm
  | cons reference rest ih =>
      rcases List.mem_cons.mp member with rfl | later
      · exact Nat.le_refl _
      · have behind := ih _ later
        omega

theorem stretches_ordered (size reached : Nat) (references : List Reference)
    (forward : ∀ reference ∈ references, reference.start ≤ reference.stop) :
    (stretches size reached references).Pairwise fun a b => a.stop ≤ b.start := by
  induction references generalizing reached with
  | nil => simp [stretches]
  | cons reference rest ih =>
      obtain ⟨here, others⟩ := List.forall_mem_cons.mp forward
      refine List.pairwise_cons.mpr ⟨?_, ih _ others⟩
      intro stretch member
      have behind := stretches_behind _ _ _ stretch member
      simp only
      omega

theorem uncovered_cons (size : Nat) (reference : Reference) (rest : List Reference) (position : Nat) :
    Uncovered size (reference :: rest) position ↔
      ¬ reference.span.Holds position ∧ Uncovered size rest position := by
  rw [Uncovered, Uncovered, List.forall_mem_cons]
  exact and_left_comm

theorem uncovered_before (size bound : Nat) (references : List Reference) (position : Nat) (inside : position < size)
    (before : position < bound) (later : ∀ reference ∈ references, bound ≤ reference.start) :
    Uncovered size references position := by
  refine ⟨inside, ?_⟩
  intro reference member holds
  have start := later reference member
  have reached : reference.start ≤ position := holds.1
  omega

-- What carries the sweep is the greatest end so far: positions before it are done with, and no later span starts before
-- the next one does.
theorem stretches_count (size reached : Nat) (references : List Reference) (position : Nat)
    (sorted : references.Pairwise fun a b => a.start ≤ b.start)
    (fits : ∀ reference ∈ references, reference.start ≤ reference.stop ∧ reference.stop ≤ size) :
    (stretches size reached references).countP (fun stretch => decide (stretch.Holds position)) =
      if reached ≤ position ∧ Uncovered size references position then 1 else 0 := by
  induction references generalizing reached with
  | nil =>
      have last : Stretch.Holds ⟨reached, size⟩ position ↔ reached ≤ position ∧ Uncovered size [] position := by
        simp [Stretch.Holds, Uncovered]
      simp only [stretches, List.countP_singleton, decide_eq_true_eq, last]
  | cons reference rest ih =>
      obtain ⟨⟨forward, inRange⟩, others⟩ := List.forall_mem_cons.mp fits
      obtain ⟨first, later⟩ := List.pairwise_cons.mp sorted
      have span : reference.span.Holds position ↔ reference.start ≤ position ∧ position < reference.stop := Iff.rfl
      rw [stretches, List.countP_cons, ih _ later others]
      simp only [decide_eq_true_eq, uncovered_cons, span]
      by_cases before : position < reference.start
      · -- Only the gap in front of the reference can hold the position.
        have free := uncovered_before size reference.start rest position (by omega) before first
        have gap : Stretch.Holds ⟨reached, max reached reference.start⟩ position ↔ reached ≤ position := by
          simp only [Stretch.Holds]
          omega
        have behind : ¬ max reached reference.stop ≤ position := by omega
        have notSpanned : ¬ (reference.start ≤ position ∧ position < reference.stop) := by omega
        simp [gap, free, behind, notSpanned]
      · have gap : ¬ Stretch.Holds ⟨reached, max reached reference.start⟩ position := by
          simp only [Stretch.Holds]
          omega
        have reach : max reached reference.stop ≤ position ↔
            reached ≤ position ∧ ¬ (reference.start ≤ position ∧ position < reference.stop) := by omega
        simp only [if_neg gap, Nat.add_zero, reach, and_assoc]

theorem later_quasis_trimmed (marker : Marker) (gaps : List Text) (filled : gaps ≠ []) :
    LaterTrimmed marker gaps ((laterQuasis marker gaps).map Quasi.raw) := by
  induction gaps with
  | nil => exact absurd rfl filled
  | cons gap rest ih =>
      cases rest with
      | nil => exact .last gap _ (last_erased _ gap marker.closing_filled)
      | cons next rest =>
          exact .between gap _ _ _ _ (first_erased _ gap marker.closing_filled)
            (last_erased _ _ marker.opening_filled) (ih (by simp))

theorem quasis_trimmed (marker : Marker) (gaps : List Text) (many : 2 ≤ gaps.length) :
    Trimmed marker gaps ((quasis marker gaps).map Quasi.raw) := by
  match gaps, many with
  | gap :: next :: rest, _ =>
      exact .first gap _ _ _ (last_erased _ gap marker.opening_filled)
        (later_quasis_trimmed marker (next :: rest) (by simp))

theorem references_interleave (catalog : Catalog) (input : Text) (references : List Reference)
    (found : catalog.references input = .ok references) :
    interleave (gaps input 0 references) (references.map (·.target.full)) = input := by
  cases references with
  | nil => exact onward_bytes [] input
  | cons reference rest =>
      obtain ⟨layout, whole, lays, _⟩ := references_laid catalog input _ found (by simp)
      have same : gaps input 0 (reference :: rest) = layout.gaps := gaps_laid input layout [] _ whole.symm lays
      rw [same, lays_spots layout 0 _ lays, Layout.interleave_gaps, whole]

/-- The gaps of a template are stretches of its input, from left to right, that hold each byte outside of all spans once
and no byte of a span. They are trimmed only of marks. Around references found in the input, gaps and addresses
alternate to the whole input. -/
theorem template_gaps (policy : Policy) (input : Text) (references : List Reference) :
    ((∀ reference ∈ references, reference.Fits input) → 2 ≤ references.length →
      ∃ (places : List Stretch) (elements : List Quasi),
        List.Forall₂ (Stretch.Cuts input) places (gaps input 0 (sortByStart references)) ∧
        (places.Pairwise fun a b => a.stop ≤ b.start) ∧
        (∀ position, places.countP (fun place => decide (place.Holds position)) =
          if Uncovered (bytes input) references position then 1 else 0) ∧
        compose policy input references = ⟨.ok (.template elements ((sortByStart references).map chain)), []⟩ ∧
        Trimmed (Marker.ofText input) (gaps input 0 (sortByStart references)) (elements.map Quasi.raw)) ∧
    ∀ catalog : Catalog, catalog.references input = .ok references → sortByStart references = references ∧
      interleave (gaps input 0 references) (references.map (·.target.full)) = input := by
  refine ⟨?_, fun catalog found => ⟨references_sorted catalog input references found,
    references_interleave catalog input references found⟩⟩
  intro fits many
  have perm := sort_by_start_perm references
  have sortedFits : ∀ reference ∈ sortByStart references, reference.Fits input :=
    fun reference member => fits reference (perm.mem_iff.mp member)
  have uncovered (position : Nat) :
      Uncovered (bytes input) (sortByStart references) position ↔ Uncovered (bytes input) references position := by
    simp only [Uncovered, perm.mem_iff]
  have size : 2 ≤ (gaps input 0 (sortByStart references)).length := by
    rw [gaps_length, perm.length_eq]
    omega
  refine ⟨stretches (bytes input) 0 (sortByStart references), _, ?_, ?_, ?_,
    compose_several policy input references many, quasis_trimmed _ _ size⟩
  · exact gaps_cut input 0 _ ⟨[], input, rfl, rfl⟩ sortedFits
  · exact stretches_ordered _ 0 _ fun reference member => (sortedFits reference member).forward
  · intro position
    rw [stretches_count _ 0 _ position (sort_by_start_sorted references)]
    · simp only [Nat.zero_le, true_and, uncovered]
    · intro reference member
      obtain ⟨_, stop, forward⟩ := sortedFits reference member
      exact ⟨forward, boundary_in_range _ input stop⟩

theorem template_gaps_nested :
    let input : Text := "${f(a.b, c.d)} é ${x.y}".toList
    let references : List Reference :=
      [⟨20, 23, ⟨"x.y".toList, "x.y".toList⟩⟩, ⟨4, 12, ⟨"a.b".toList, "a.b, c.d".toList⟩⟩,
        ⟨9, 12, ⟨"c.d".toList, "c.d".toList⟩⟩, ⟨4, 7, ⟨"a.b".toList, "a.b".toList⟩⟩]
    (∀ reference ∈ references, reference.Fits input) ∧ 2 ≤ references.length ∧
    ∃ (places : List Stretch) (elements : List Quasi),
      List.Forall₂ (Stretch.Cuts input) places ["$\x7bf(".toList, [], [], ")\x7d é $\x7b".toList, "\x7d".toList] ∧
      places.countP (fun place => decide (place.Holds 16)) = 1 ∧
      places.countP (fun place => decide (place.Holds 10)) = 0 ∧
      Trimmed .single ["$\x7bf(".toList, [], [], ")\x7d é $\x7b".toList, "\x7d".toList] (elements.map Quasi.raw) := by
  intro input references
  have fits : ∀ reference ∈ references, reference.Fits input := by decide +kernel
  have segments : gaps input 0 (sortByStart references) =
      ["$\x7bf(".toList, [], [], ")\x7d é $\x7b".toList, "\x7d".toList] := rfl
  obtain ⟨places, elements, cuts, _, count, _, trimmed⟩ := (template_gaps .error input references).1 fits (by decide)
  rw [segments] at cuts trimmed
  exact ⟨fits, by decide, places, elements, cuts, by rw [count]; decide +kernel, by rw [count]; decide +kernel, trimmed⟩

end Interpolation
