import Interpolation.Proofs.Gaps

set_option autoImplicit false

namespace Interpolation

open Text

def startingAt (position : Nat) (references : List Reference) : List Reference :=
  references.filter fun reference => reference.start == position

structure Arranged (references sorted : List Reference) : Prop where
  ascending : sorted.Pairwise fun a b => a.start ≤ b.start
  stable : ∀ position, startingAt position sorted = startingAt position references

def StartApart (references : List Reference) : Prop := references.Pairwise fun a b => a.start ≠ b.start

instance (references : List Reference) : Decidable (StartApart references) :=
  inferInstanceAs (Decidable (references.Pairwise _))

theorem starting_here (reference : Reference) (rest : List Reference) :
    startingAt reference.start (reference :: rest) = reference :: startingAt reference.start rest := by
  simp [startingAt]

theorem starting_elsewhere (position : Nat) (reference : Reference) (rest : List Reference)
    (other : reference.start ≠ position) : startingAt position (reference :: rest) = startingAt position rest := by
  simp [startingAt, other]

theorem starting_apart (position : Nat) (references : List Reference) (apart : StartApart references) :
    startingAt position references = [] ∨ ∃ reference, startingAt position references = [reference] := by
  induction references with
  | nil => exact .inl rfl
  | cons reference rest ih =>
      obtain ⟨first, later⟩ := List.pairwise_cons.mp apart
      by_cases here : reference.start = position
      · subst here
        have alone : startingAt reference.start rest = [] := by
          rw [startingAt, List.filter_eq_nil_iff]
          intro other member
          simpa using (first other member).symm
        exact .inr ⟨reference, by rw [starting_here, alone]⟩
      · rw [starting_elsewhere position reference rest here]
        exact ih later

theorem starting_reordered (position : Nat) (references others : List Reference) (reordered : others.Perm references)
    (apart : StartApart references) : startingAt position others = startingAt position references := by
  have kept : (startingAt position others).Perm (startingAt position references) := reordered.filter _
  rcases starting_apart position references apart with none | ⟨reference, one⟩
  · rw [none] at kept ⊢
    exact kept.eq_nil
  · rw [one] at kept ⊢
    exact kept.eq_singleton

-- References with one start are sorted already, and what is sorted keeps its order.
theorem sort_arranged (references : List Reference) : Arranged references (sortByStart references) := by
  refine ⟨sort_by_start_sorted references, ?_⟩
  intro position
  have level : (startingAt position references).Pairwise fun a b => a.start ≤ b.start := by
    rw [List.pairwise_iff_forall_sublist]
    intro a b within
    have left := List.mem_filter.mp (within.subset (List.mem_cons_self : a ∈ [a, b]))
    have right := List.mem_filter.mp (within.subset (by simp : b ∈ [a, b]))
    simp only [beq_iff_eq] at left right
    omega
  have kept : (startingAt position references).Sublist (sortByStart references) := by
    rw [sort_by_start_eq]
    exact List.sublist_insertionSort level List.filter_sublist
  have inside := kept.filter fun reference => reference.start == position
  rw [startingAt, List.filter_filter] at inside
  simp only [Bool.and_self] at inside
  have size := ((sort_by_start_perm references).filter fun reference => reference.start == position).length_eq
  exact (inside.eq_of_length size.symm).symm

theorem ascending_first (reference : Reference) (rest : List Reference)
    (ascending : (reference :: rest).Pairwise fun a b => a.start ≤ b.start) (other : Reference)
    (member : other ∈ reference :: rest) : reference.start ≤ other.start := by
  rcases List.mem_cons.mp member with rfl | later
  · exact Nat.le_refl _
  · exact (List.pairwise_cons.mp ascending).1 other later

theorem starting_within (a b : List Reference) (same : ∀ position, startingAt position a = startingAt position b)
    (reference : Reference) (member : reference ∈ a) : reference ∈ b := by
  have inside : reference ∈ startingAt reference.start a := List.mem_filter.mpr ⟨member, beq_self_eq_true _⟩
  rw [same] at inside
  exact (List.mem_filter.mp inside).1

theorem starting_tails (reference : Reference) (a b : List Reference)
    (same : ∀ position, startingAt position (reference :: a) = startingAt position (reference :: b)) (position : Nat) :
    startingAt position a = startingAt position b := by
  have whole := same position
  by_cases here : reference.start = position
  · subst here
    rw [starting_here, starting_here] at whole
    exact (List.cons.inj whole).2
  · rwa [starting_elsewhere _ reference a here, starting_elsewhere _ reference b here] at whole

-- Both lists begin with the least start, and so with the first reference that has it.
theorem ascending_unique (a b : List Reference) (left : a.Pairwise fun a b => a.start ≤ b.start)
    (right : b.Pairwise fun a b => a.start ≤ b.start)
    (same : ∀ position, startingAt position a = startingAt position b) : a = b := by
  induction a generalizing b with
  | nil =>
      cases b with
      | nil => rfl
      | cons other b => cases starting_within _ [] (fun position => (same position).symm) other List.mem_cons_self
  | cons reference a ih =>
      cases b with
      | nil => cases starting_within _ [] same reference List.mem_cons_self
      | cons other b =>
          have below := ascending_first other b right reference
            (starting_within _ _ same reference List.mem_cons_self)
          have above := ascending_first reference a left other
            (starting_within _ _ (fun position => (same position).symm) other List.mem_cons_self)
          have heads := same reference.start
          rw [starting_here, Nat.le_antisymm above below, starting_here] at heads
          obtain rfl : reference = other := (List.cons.inj heads).1
          rw [ih b (List.pairwise_cons.mp left).2 (List.pairwise_cons.mp right).2 (starting_tails reference a b same)]

theorem arranged_iff (references sorted : List Reference) :
    Arranged references sorted ↔ sortByStart references = sorted := by
  obtain ⟨ascending, stable⟩ := sort_arranged references
  constructor
  · intro arranged
    exact ascending_unique _ _ ascending arranged.ascending fun position =>
      (stable position).trans (arranged.stable position).symm
  · rintro rfl
    exact ⟨ascending, stable⟩

theorem sort_same_iff (a b : List Reference) :
    sortByStart a = sortByStart b ↔ ∀ position, startingAt position a = startingAt position b := by
  rw [← arranged_iff]
  obtain ⟨ascending, stable⟩ := sort_arranged b
  constructor
  · intro arranged position
    rw [← arranged.stable, stable]
  · intro same
    exact ⟨ascending, fun position => (stable position).trans (same position).symm⟩

theorem compose_sort (policy : Policy) (input : Text) (a b : List Reference) (same : sortByStart a = sortByStart b) :
    compose policy input a = compose policy input b := by
  rw [compose, compose, same]

theorem references_apart (catalog : Catalog) (input : Text) (references : List Reference)
    (found : catalog.references input = .ok references) : StartApart references := by
  by_cases empty : references = []
  · rw [empty]
    exact List.Pairwise.nil
  · obtain ⟨layout, _, lays, _⟩ := references_laid catalog input references found empty
    refine (lays_ordered layout 0 references lays).imp_of_mem ?_
    intro a b member _ apart
    obtain ⟨filled, _⟩ := mention_facts input _ (reference_mentioned catalog input references found a member)
    have positive : bytes a.target.full ≠ 0 := mt (bytes_zero_iff _).mp filled
    have stop := lays.2 a member
    omega

/-- References with different starts compose to one result, in whatever order they are given. Those found in an input
have different starts, so they compose to what the input converts to. References that share a start are read as they
were given, behind those that start before. -/
theorem composed_in_any_order (catalog : Catalog) (settings : Settings) (input : Text)
    (references others : List Reference) (reordered : others.Perm references) :
    (StartApart references → compose settings.policy input others = compose settings.policy input references) ∧
    (catalog.references input = .ok references → StartApart references ∧
      compose settings.policy input others = (Resolver.mk catalog settings).convert input) ∧
    ∃ sorted, (∀ arranged, Arranged others arranged ↔ arranged = sorted) ∧ sorted.Perm references ∧
      compose settings.policy input others = compose settings.policy input sorted ∧
      (2 ≤ references.length → compose settings.policy input others = ⟨.ok (template input sorted), []⟩) := by
  have apartSame (apart : StartApart references) :
      compose settings.policy input others = compose settings.policy input references :=
    compose_sort _ input _ _ ((sort_same_iff others references).mpr fun position =>
      starting_reordered position references others reordered apart)
  refine ⟨apartSame, ?_, sortByStart others, ?_, (sort_by_start_perm others).trans reordered, ?_, ?_⟩
  · intro found
    have apart := references_apart catalog input references found
    rw [convert_found ⟨catalog, settings⟩ input references found]
    exact ⟨apart, apartSame apart⟩
  · intro arranged
    rw [arranged_iff]
    exact eq_comm
  · exact compose_sort _ input _ _ (sort_sorted _ (sort_by_start_sorted others)).symm
  · intro many
    rw [← reordered.length_eq] at many
    exact compose_several _ input others many

theorem composed_in_reverse :
    let catalog : Catalog := ⟨["var.a".toList, "module.m".toList]⟩
    let input : Text := "${max(var.a, module.m.size, var.a)}".toList
    let references : List Reference := [.anchored 6 "var.a".toList "var.a".toList,
      .anchored 13 "module.m".toList "module.m.size".toList, .anchored 28 "var.a".toList "var.a".toList]
    let front : Reference := ⟨2, 7, ⟨[], "x.y".toList⟩⟩
    let wide : Reference := ⟨9, 12, ⟨[], "b.d".toList⟩⟩
    let backward : Reference := ⟨9, 4, ⟨[], "b.c".toList⟩⟩
    catalog.references input = .ok references ∧
      compose .error input references.reverse = (Resolver.mk catalog ⟨1, .error⟩).convert input ∧
      compose .error input references.reverse = compose .error input references ∧
      compose .warn input [backward, front, wide] = ⟨.ok (template input [front, backward, wide]), []⟩ := by
  intro catalog input references front wide backward
  have found : catalog.references input = .ok references := rfl
  obtain ⟨same, converts, _⟩ := composed_in_any_order catalog ⟨1, .error⟩ input references references.reverse
    (List.reverse_perm references)
  obtain ⟨_, _, sorted, only, _, _, several⟩ := composed_in_any_order catalog ⟨1, .warn⟩ input
    [backward, front, wide] [backward, front, wide] (List.Perm.refl _)
  have arranged := (only _).mp (sort_arranged [backward, front, wide])
  refine ⟨found, (converts found).2, same (by decide), ?_⟩
  rw [several (by decide), ← arranged]
  rfl

end Interpolation
