import Interpolation.Proofs.Outcomes
import Mathlib.Data.List.Forall2

set_option autoImplicit false

namespace Interpolation

open Text

structure Reference.Alike (a b : Reference) : Prop where
  start : a.start = b.start
  stop : a.stop = b.stop
  full : a.target.full = b.target.full

theorem chain_alike (a b : Reference) (alike : a.Alike b) : chain a = chain b := by
  rw [chain_address, chain_address, alike.full]

theorem chains_alike (as bs : List Reference) (alike : List.Forall₂ Reference.Alike as bs) :
    as.map chain = bs.map chain := by
  induction alike with
  | nil => rfl
  | cons here later ih => rw [List.map_cons, List.map_cons, chain_alike _ _ here, ih]

theorem sort_alike (as bs : List Reference) (alike : List.Forall₂ Reference.Alike as bs) :
    List.Forall₂ Reference.Alike (sortByStart as) (sortByStart bs) := by
  obtain ⟨size, each⟩ := List.forall₂_iff_zip.mp alike
  -- Sorting the pairs by their first reference sorts both lists.
  let pairs := (as.zip bs).insertionSort fun p q => p.1.start ≤ q.1.start
  have lefts : pairs.map Prod.fst = sortByStart as := by
    rw [List.map_insertionSort _ (fun a b : Reference => a.start ≤ b.start) _ _ fun _ _ _ _ => Iff.rfl,
      List.map_fst_zip (Nat.le_of_eq size), sort_by_start_eq]
  have order : ∀ p ∈ as.zip bs, ∀ q ∈ as.zip bs, p.1.start ≤ q.1.start ↔ p.2.start ≤ q.2.start := by
    intro p first q second
    rw [(each first).start, (each second).start]
  have rights : pairs.map Prod.snd = sortByStart bs := by
    rw [List.map_insertionSort _ (fun a b : Reference => a.start ≤ b.start) _ _ order,
      List.map_snd_zip (Nat.le_of_eq size.symm), sort_by_start_eq]
  rw [← lefts, ← rights, List.forall₂_map_left_iff, List.forall₂_map_right_iff, List.forall₂_same]
  intro pair member
  exact each ((List.mem_insertionSort _).mp member)

theorem gaps_alike (input : Text) (reached : Nat) (as bs : List Reference)
    (alike : List.Forall₂ Reference.Alike as bs) : gaps input reached as = gaps input reached bs := by
  induction alike generalizing reached with
  | nil => rfl
  | cons here later ih => rw [gaps, gaps, here.start, here.stop, ih]

theorem lone_alike (policy : Policy) (input : Text) (a b : Reference) (alike : a.Alike b) :
    lone policy input a = lone policy input b := by
  have around : remainder input a = remainder input b := by rw [remainder, remainder, alike.start, alike.stop]
  rw [lone, lone, around]
  unfold loneWith
  rw [chain_alike a b alike]

theorem template_alike (input : Text) (as bs : List Reference) (alike : List.Forall₂ Reference.Alike as bs) :
    template input as = template input bs := by
  rw [template, template, gaps_alike input 0 as bs alike, chains_alike as bs alike]

theorem compose_alike (policy : Policy) (input : Text) (as bs : List Reference)
    (alike : List.Forall₂ Reference.Alike as bs) : compose policy input as = compose policy input bs := by
  have sorted := sort_alike as bs alike
  rw [compose, compose]
  generalize sortByStart as = left at sorted ⊢
  generalize sortByStart bs = right at sorted ⊢
  cases sorted with
  | nil => rfl
  | cons here later =>
      cases later with
      | nil => exact lone_alike policy input _ _ here
      | cons next further =>
          have same := template_alike input _ _ (.cons here (.cons next further))
          simp only [same]

theorem resolve_alike (c d : Catalog) (input : Text) (previous : Nat) (addresses : List Text)
    (as bs : List Reference) (first : c.resolve? input previous addresses = some as)
    (second : d.resolve? input previous addresses = some bs) : List.Forall₂ Reference.Alike as bs := by
  induction addresses generalizing previous as bs with
  | nil =>
      obtain rfl : [] = as := by simpa [Catalog.resolve?] using first
      obtain rfl : [] = bs := by simpa [Catalog.resolve?] using second
      exact .nil
  | cons address rest ih =>
      obtain ⟨_, _, _, behind, rfl⟩ := resolve_cons c input address previous rest as first
      obtain ⟨_, _, _, beyond, rfl⟩ := resolve_cons d input address previous rest bs second
      exact .cons ⟨rfl, rfl, rfl⟩ (ih _ _ _ behind beyond)

theorem references_alike (c d : Catalog) (input : Text) (as bs : List Reference) (first : c.references input = .ok as)
    (second : d.references input = .ok bs) : List.Forall₂ Reference.Alike as bs := by
  rcases references_resolved c input as first with ⟨plain, rfl⟩ | ⟨interpolated, resolved⟩
  · rcases references_resolved d input bs second with ⟨_, rfl⟩ | ⟨interpolated, _⟩
    · exact .nil
    · simp [plain] at interpolated
  · rcases references_resolved d input bs second with ⟨plain, _⟩ | ⟨_, other⟩
    · simp [interpolated] at plain
    · exact resolve_alike c d input 0 _ as bs resolved other

namespace Catalog

theorem succeeds_iff (catalog : Catalog) (input : Text) :
    (∃ references, catalog.references input = .ok references) ↔
      ¬ splat <:+: input ∧ (isInterpolated input = true → ∀ address ∈ mentions input, ¬ catalog.Lacks address) := by
  constructor
  · intro ⟨references, found⟩
    refine ⟨catalog.references_unsplatted input references found, ?_⟩
    intro interpolated
    rcases references_resolved catalog input references found with ⟨plain, _⟩ | ⟨_, resolved⟩
    · simp [interpolated] at plain
    · exact (resolve_succeeds_iff catalog input 0 _).mp (Option.isSome_iff_exists.mpr ⟨references, resolved⟩)
  · intro ⟨unsplatted, known⟩
    by_cases interpolated : isInterpolated input = true
    · obtain ⟨references, found, _⟩ := catalog.references_known input unsplatted interpolated (known interpolated)
      exact ⟨references, found⟩
    · exact ⟨[], catalog.references_plain input unsplatted (by simpa using interpolated)⟩

theorem lacks_within (c d : Catalog) (address : Text) (within : ∀ id ∈ c.ids, id ∈ d.ids) (lacking : d.Lacks address) :
    c.Lacks address :=
  fun id member => lacking id (within id member)

def extended (catalog : Catalog) (more : List Text) : Catalog := ⟨catalog.ids ++ more⟩

theorem find_extended (catalog : Catalog) (more segments : List Text) (id : Text)
    (known : catalog.find? segments = some id) : (catalog.extended more).find? segments = some id := by
  rw [find?, extended, List.find?_append]
  rw [find?] at known
  rw [known, Option.some_or]

theorem resolve_extended (catalog : Catalog) (more : List Text) (input : Text) (previous : Nat) (addresses : List Text)
    (references : List Reference) (resolved : catalog.resolve? input previous addresses = some references) :
    (catalog.extended more).resolve? input previous addresses = some references := by
  induction addresses generalizing previous references with
  | nil => exact resolved
  | cons address rest ih =>
      obtain ⟨id, later, known, behind, rfl⟩ := resolve_cons catalog input address previous rest references resolved
      simp only [resolve?, find_extended catalog more _ id known, Option.bind_eq_bind, Option.bind_some,
        ih _ later behind, Option.pure_def]

theorem references_extended (catalog : Catalog) (more : List Text) (input : Text) (found : List Reference)
    (succeeded : catalog.references input = .ok found) : (catalog.extended more).references input = .ok found := by
  have unsplatted := catalog.references_unsplatted input found succeeded
  rcases references_resolved catalog input found succeeded with ⟨plain, rfl⟩ | ⟨interpolated, resolved⟩
  · exact (catalog.extended more).references_plain input unsplatted plain
  · have absent := (contains_false_iff splat input (by decide)).mpr unsplatted
    simp [references, absent, interpolated, resolve_extended catalog more input 0 _ found resolved]

end Catalog

/-- Two catalogs under which an input succeeds give the same references up to identifiers, and one result. A catalog
that has all the identifiers of another succeeds where that one does; one that has them in front, with more behind,
gives the very same references. -/
theorem results_across_catalogs (c d : Catalog) (input : Text) (found : List Reference)
    (succeeded : c.references input = .ok found) :
    (∀ other, d.references input = .ok other → List.Forall₂ Reference.Alike found other ∧
      ∀ settings, (Resolver.mk c settings).convert input = (Resolver.mk d settings).convert input) ∧
    ((∀ id ∈ c.ids, id ∈ d.ids) → ∃ other, d.references input = .ok other) ∧
    ((∃ more, d.ids = c.ids ++ more) → d.references input = .ok found) := by
  refine ⟨?_, ?_, ?_⟩
  · intro other succeededToo
    have alike := references_alike c d input found other succeeded succeededToo
    refine ⟨alike, ?_⟩
    intro settings
    rw [convert_found ⟨c, settings⟩ input found succeeded, convert_found ⟨d, settings⟩ input other succeededToo]
    exact compose_alike settings.policy input found other alike
  · intro within
    obtain ⟨unsplatted, known⟩ := (c.succeeds_iff input).mp ⟨found, succeeded⟩
    refine (d.succeeds_iff input).mpr ⟨unsplatted, ?_⟩
    intro interpolated address mentioned lacking
    exact known interpolated address mentioned (c.lacks_within d address within lacking)
  · intro ⟨more, ids⟩
    have same : d = c.extended more := by
      cases d
      exact congrArg Catalog.mk ids
    rw [same]
    exact c.references_extended more input found succeeded

theorem results_across_catalogs_reordered :
    let short : Catalog := ⟨["module.m".toList, "var.a".toList]⟩
    let long : Catalog := ⟨["var.a.b".toList, "x".toList, "var.a".toList, "module.m".toList]⟩
    let further : Catalog := ⟨["module.m".toList, "var.a".toList, "module.m.size".toList]⟩
    let input : Text := "${max(module.m.size, var.a)}".toList
    let found := [Reference.anchored 6 "module.m".toList "module.m.size".toList,
      Reference.anchored 21 "var.a".toList "var.a".toList]
    let other := [Reference.anchored 6 "module.m".toList "module.m.size".toList,
      Reference.anchored 21 "var.a.b".toList "var.a".toList]
    long.references input = .ok other ∧ List.Forall₂ Reference.Alike found other ∧
      (∀ settings, (Resolver.mk short settings).convert input = (Resolver.mk long settings).convert input) ∧
      further.references input = .ok found := by
  intro short long further input found other
  have succeeded : short.references input = .ok found := rfl
  have different : long.references input = .ok other := rfl
  obtain ⟨alike, same⟩ := (results_across_catalogs short long input found succeeded).1 other different
  obtain ⟨_, _, kept⟩ := results_across_catalogs short further input found succeeded
  exact ⟨different, alike, same, kept ⟨["module.m.size".toList], rfl⟩⟩

end Interpolation
