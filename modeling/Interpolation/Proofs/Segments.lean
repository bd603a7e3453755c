import Interpolation.Proofs.Parts
import Interpolation.Proofs.Targets
import Interpolation.Proofs.Words

set_option autoImplicit false

namespace Interpolation

open Text

def interpolation (expression : Text) : Text := Marker.single.opening ++ (expression ++ Marker.single.closing)

def neighbours (x y : Text) : Text := x ++ '}' :: '$' :: '{' :: y

def Catalog.Finds (catalog : Catalog) (input : Text) (targets : List Target) : Prop :=
  ∃ references, catalog.references input = .ok references ∧ references.map Reference.target = targets

theorem interpolation_interpolated (x : Text) : isInterpolated (interpolation x) = true :=
  Marker.single.opened_interpolated _

theorem interpolation_marker (x : Text) (unbraced : x.head? ≠ some '{') :
    Marker.ofText (interpolation x) = .single := by
  apply Marker.single.opened_marker
  cases x with
  | nil => simp [Marker.closing]
  | cons c rest => simpa using unbraced

theorem interpolation_enclosed (x : Text) (unbraced : x.head? ≠ some '{') : enclosed (interpolation x) = x := by
  have marker := interpolation_marker x unbraced
  have slice := enclosed_slice_eq (interpolation x) (x ++ Marker.single.closing) (by rw [marker]; rfl)
  have text := congrArg Slice.text slice
  rw [marker, drop_end_append _ x _ (Nat.le_refl _)] at text
  simpa [enclosedSlice, dropEnd] using text

theorem interpolation_mentions (x : Text) (unbraced : x.head? ≠ some '{') :
    mentions (interpolation x) = addresses (collection x) := by
  rw [mentions, interpolation_enclosed x unbraced]

theorem interpolation_append (x y : Text) : interpolation x ++ interpolation y = interpolation (neighbours x y) := by
  simp [interpolation, neighbours, Marker.opening, Marker.closing]

theorem neighbours_unbraced (x y : Text) (unbraced : x.head? ≠ some '{') : (neighbours x y).head? ≠ some '{' := by
  cases x with
  | nil => simp [neighbours]
  | cons c rest => simpa [neighbours] using unbraced

theorem addresses_delimiter (a b : Text) (d : Char) (delimits : isDelimiter d = true) :
    addresses (a ++ d :: b) = addresses a ++ addresses b := by
  simp only [addresses, atoms_append_delimiter a b d delimits, List.filter_append]

theorem addresses_neighbours (x y : Text) : addresses (neighbours x y) = addresses x ++ addresses y := by
  have dollar := addresses_delimiter [] ('{' :: y) '$' (by decide)
  have brace := addresses_delimiter [] y '{' (by decide)
  have empty : addresses [] = [] := rfl
  rw [neighbours, addresses_delimiter x _ '}' (by decide)]
  simp only [List.nil_append, empty] at dollar brace
  rw [dollar, brace]

theorem collection_neighbours_plain (x y : Text) (plain : ¬ IsComprehension (neighbours x y)) :
    addresses (collection (neighbours x y)) = addresses (collection x) ++ addresses (collection y) := by
  have left : ¬ IsComprehension x := fun comprehension => plain (comprehension_append x _ comprehension)
  have right : ¬ IsComprehension y := by
    intro comprehension
    have brace := comprehension_behind [] '{' y (by decide) comprehension
    have dollar := comprehension_behind [] '$' _ (by decide) brace
    exact plain (comprehension_behind x '}' _ (by decide) dollar)
  rw [collection_kept _ plain, collection_kept x left, collection_kept y right, addresses_neighbours]

theorem collection_neighbours_front (x y : Text) (comprehension : IsComprehension x) :
    collection (neighbours x y) = collection x := by
  obtain ⟨source, narrowed⟩ := Option.isSome_iff_exists.mp ((collection_narrows_iff x).mpr comprehension)
  rw [collection, collection, neighbours, collection_append x _ source narrowed, narrowed]
  rfl

theorem collection_neighbours_back (x y : Text) (comprehension : IsComprehension y)
    (absent : ∀ left right, x = left ++ ("for".toList ++ right) → ¬ Alone none left right) :
    collection (neighbours x y) = collection y := by
  obtain ⟨source, narrowed⟩ := Option.isSome_iff_exists.mp ((collection_narrows_iff y).mpr comprehension)
  -- The marks hold no word for either.
  have brace := collection_behind [] '{' y (by decide) (by decide) (by simp)
  have dollar := collection_behind [] '$' ('{' :: y) (by decide) (by decide) (by simp)
  have front := collection_behind x '}' ('$' :: '{' :: y) (by decide) (by decide) absent
  have whole : collection? (neighbours x y) = collection? y := front.trans (dollar.trans brace)
  rw [collection, collection, whole, narrowed]
  rfl

theorem finds_iff (catalog : Catalog) (input : Text) (targets : List Target)
    (interpolated : isInterpolated input = true) :
    catalog.Finds input targets ↔ ¬ splat <:+: input ∧ (mentions input).map catalog.target? = targets.map some := by
  constructor
  · intro finds
    obtain ⟨references, found, rfl⟩ := finds
    refine ⟨catalog.references_unsplatted input references found, ?_⟩
    cases references_resolved catalog input references found with
    | inl plain => rw [interpolated] at plain; cases plain.1
    | inr resolved => exact catalog.resolve_targets input 0 _ references resolved.2
  · intro spec
    obtain ⟨unsplatted, targeted⟩ := spec
    have known : ∀ address ∈ mentions input, ¬ catalog.Lacks address := by
      intro address mentioned lacking
      have target := List.mem_map_of_mem (f := catalog.target?) mentioned
      rw [targeted, (catalog.target_none_iff address).mpr lacking] at target
      simp at target
    obtain ⟨references, found, named⟩ := catalog.references_known input unsplatted interpolated known
    exact ⟨references, found, (List.map_inj_right fun _ _ => Option.some.inj).mp (named.symm.trans targeted)⟩

theorem finds_mentions (catalog : Catalog) (input : Text) (targets : List Target)
    (interpolated : isInterpolated input = true) (finds : catalog.Finds input targets) :
    mentions input = targets.map Target.full := by
  obtain ⟨_, targeted⟩ := (finds_iff catalog input targets interpolated).mp finds
  exact (catalog.targets_looked_up (mentions input) targets targeted).1.symm

theorem finds_unique (catalog : Catalog) (input : Text) (targets others : List Target)
    (finds : catalog.Finds input targets) (again : catalog.Finds input others) : targets = others := by
  obtain ⟨references, found, rfl⟩ := finds
  obtain ⟨same, foundAgain, rfl⟩ := again
  rw [Except.ok.inj (found.symm.trans foundAgain)]

theorem neighbours_unsplatted (x y : Text) (left : ¬ splat <:+: interpolation x)
    (right : ¬ splat <:+: interpolation y) : ¬ splat <:+: interpolation x ++ interpolation y :=
  splat_seam _ _ left right (by simp [interpolation, Marker.opening])

theorem neighbours_mentions (x y : Text) (unbraced : x.head? ≠ some '{') :
    mentions (interpolation x ++ interpolation y) = addresses (collection (neighbours x y)) := by
  rw [interpolation_append, interpolation_mentions _ (neighbours_unbraced x y unbraced)]

theorem neighbours_interpolated (x y : Text) : isInterpolated (interpolation x ++ interpolation y) = true := by
  rw [interpolation_append]
  exact interpolation_interpolated _

theorem neighbours_finds (catalog : Catalog) (x y : Text) (left right targets : List Target)
    (leftFinds : catalog.Finds (interpolation x) left) (rightFinds : catalog.Finds (interpolation y) right)
    (targeted : (mentions (interpolation x ++ interpolation y)).map catalog.target? = targets.map some) :
    catalog.Finds (interpolation x ++ interpolation y) targets := by
  obtain ⟨leftUnsplatted, _⟩ := (finds_iff catalog _ left (interpolation_interpolated x)).mp leftFinds
  obtain ⟨rightUnsplatted, _⟩ := (finds_iff catalog _ right (interpolation_interpolated y)).mp rightFinds
  exact (finds_iff catalog _ targets (neighbours_interpolated x y)).mpr
    ⟨neighbours_unsplatted x y leftUnsplatted rightUnsplatted, targeted⟩

/-- Two interpolations in a row have the targets of the first and then those of the second just when their mentions
follow one another so, and this is so unless a comprehension is read in the text between the outer marks. One in the
first interpolation hides the targets of the second; one in the second hides those of a first in which no word for
stands. -/
theorem neighbours_found (catalog : Catalog) (x y : Text) (left right : List Target)
    (leftUnbraced : x.head? ≠ some '{') (rightUnbraced : y.head? ≠ some '{')
    (leftFinds : catalog.Finds (interpolation x) left) (rightFinds : catalog.Finds (interpolation y) right) :
    (catalog.Finds (interpolation x ++ interpolation y) (left ++ right) ↔
      mentions (interpolation x ++ interpolation y) = mentions (interpolation x) ++ mentions (interpolation y)) ∧
    (¬ IsComprehension (neighbours x y) → catalog.Finds (interpolation x ++ interpolation y) (left ++ right)) ∧
    (IsComprehension x → catalog.Finds (interpolation x ++ interpolation y) left) ∧
    (IsComprehension y → (∀ before after, x = before ++ ("for".toList ++ after) → ¬ Alone none before after) →
      catalog.Finds (interpolation x ++ interpolation y) right) := by
  obtain ⟨_, leftTargets⟩ := (finds_iff catalog _ left (interpolation_interpolated x)).mp leftFinds
  obtain ⟨_, rightTargets⟩ := (finds_iff catalog _ right (interpolation_interpolated y)).mp rightFinds
  have leftMentions := interpolation_mentions x leftUnbraced
  have rightMentions := interpolation_mentions y rightUnbraced
  have mentioned := neighbours_mentions x y leftUnbraced
  have finds := fun targets => neighbours_finds catalog x y left right targets leftFinds rightFinds
  have joined (split : mentions (interpolation x ++ interpolation y) =
      mentions (interpolation x) ++ mentions (interpolation y)) :
      catalog.Finds (interpolation x ++ interpolation y) (left ++ right) := by
    apply finds
    rw [split, List.map_append, List.map_append, leftTargets, rightTargets]
  refine ⟨⟨?_, joined⟩, ?_, ?_, ?_⟩
  · intro both
    rw [finds_mentions catalog _ _ (neighbours_interpolated x y) both, List.map_append,
      finds_mentions catalog _ left (interpolation_interpolated x) leftFinds,
      finds_mentions catalog _ right (interpolation_interpolated y) rightFinds]
  · intro plain
    apply joined
    rw [mentioned, collection_neighbours_plain x y plain, leftMentions, rightMentions]
  · intro comprehension
    apply finds
    rw [mentioned, collection_neighbours_front x y comprehension, ← leftMentions, leftTargets]
  · intro comprehension absent
    apply finds
    rw [mentioned, collection_neighbours_back x y comprehension absent, ← rightMentions, rightTargets]

theorem neighbours_found_comprehension :
    let catalog : Catalog := ⟨["var.users".toList, "var.b".toList]⟩
    let users : Target := ⟨"var.users".toList, "var.users".toList⟩
    let other : Target := ⟨"var.b".toList, "var.b".toList⟩
    let x : Text := "[for u in var.users : u.name]".toList
    let y : Text := "var.b".toList
    catalog.Finds (interpolation x) [users] ∧ catalog.Finds (interpolation y) [other] ∧
      catalog.Finds (interpolation x ++ interpolation y) [users] ∧
      ¬ catalog.Finds (interpolation x ++ interpolation y) [users, other] := by
  intro catalog users other x y
  have leftFinds : catalog.Finds (interpolation x) [users] := ⟨[.anchored 12 users.id users.full], rfl, rfl⟩
  have rightFinds : catalog.Finds (interpolation y) [other] := ⟨[.anchored 2 other.id other.full], rfl, rfl⟩
  have comprehension : IsComprehension x := (collection_narrows_iff x).mp rfl
  have alone := (neighbours_found catalog x y [users] [other] (by decide) (by decide) leftFinds rightFinds).2.2.1
    comprehension
  refine ⟨leftFinds, rightFinds, alone, ?_⟩
  intro both
  have same := finds_unique catalog _ _ _ alone both
  cases same

end Interpolation
