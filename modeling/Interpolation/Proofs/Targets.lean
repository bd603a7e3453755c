import Interpolation.Proofs.Anchoring
import Interpolation.Proofs.Matching

set_option autoImplicit false

namespace Interpolation

open Text

namespace Catalog

def FirstMatch (catalog : Catalog) (address id : Text) : Prop :=
  ∃ before after, catalog.ids = before ++ id :: after ∧ isMatch (segments address) id = true ∧
    ∀ other ∈ before, isMatch (segments address) other = false

def Lacks (catalog : Catalog) (address : Text) : Prop := ∀ id ∈ catalog.ids, isMatch (segments address) id = false

instance (catalog : Catalog) (address : Text) : Decidable (catalog.Lacks address) :=
  inferInstanceAs (Decidable (∀ id ∈ catalog.ids, _))

def target? (catalog : Catalog) (address : Text) : Option Target :=
  (catalog.find? (segments address)).map fun id => ⟨id, address⟩

theorem find_some_iff (catalog : Catalog) (address id : Text) :
    catalog.find? (segments address) = some id ↔ catalog.FirstMatch address id :=
  catalog.find_first_iff (segments address) id

theorem find_none_iff (catalog : Catalog) (address : Text) :
    catalog.find? (segments address) = none ↔ catalog.Lacks address := catalog.find_lacking_iff (segments address)

theorem target_some_iff (catalog : Catalog) (address : Text) (target : Target) :
    catalog.target? address = some target ↔ target.full = address ∧ catalog.FirstMatch address target.id := by
  rw [target?, Option.map_eq_some_iff, ← find_some_iff]
  constructor
  · intro found
    obtain ⟨id, known, rfl⟩ := found
    exact ⟨rfl, known⟩
  · intro spec
    obtain ⟨rfl, known⟩ := spec
    exact ⟨target.id, known, rfl⟩

theorem target_none_iff (catalog : Catalog) (address : Text) :
    catalog.target? address = none ↔ catalog.Lacks address := by
  rw [target?, Option.map_eq_none_iff, find_none_iff]

theorem targets_looked_up (catalog : Catalog) (addresses : List Text) (targets : List Target)
    (targeted : addresses.map catalog.target? = targets.map some) :
    targets.map Target.full = addresses ∧ ∀ target ∈ targets, catalog.FirstMatch target.full target.id := by
  induction targets generalizing addresses with
  | nil => simpa using targeted
  | cons target rest ih =>
      cases addresses with
      | nil => simp at targeted
      | cons address others =>
          obtain ⟨here, behind⟩ := List.cons.inj targeted
          obtain ⟨rfl, first⟩ := (catalog.target_some_iff address target).mp here
          obtain ⟨words, later⟩ := ih others behind
          exact ⟨by rw [List.map_cons, words], List.forall_mem_cons.mpr ⟨first, later⟩⟩

theorem resolve_succeeds_iff (catalog : Catalog) (input : Text) (previous : Nat) (addresses : List Text) :
    (catalog.resolve? input previous addresses).isSome = true ↔ ∀ address ∈ addresses, ¬ catalog.Lacks address := by
  induction addresses generalizing previous with
  | nil => simp [resolve?]
  | cons address rest ih =>
      rw [List.forall_mem_cons, ← find_none_iff]
      cases known : catalog.find? (segments address) with
      | none => simp [resolve?, known]
      | some id =>
          rw [← ih (Reference.anchored (anchor input address previous) id address).stop]
          cases later :
              catalog.resolve? input (Reference.anchored (anchor input address previous) id address).stop rest <;>
            simp [resolve?, known, later]

theorem resolve_targets (catalog : Catalog) (input : Text) (previous : Nat) (addresses : List Text)
    (references : List Reference) (resolved : catalog.resolve? input previous addresses = some references) :
    addresses.map catalog.target? = (references.map Reference.target).map some := by
  induction addresses generalizing previous references with
  | nil =>
      obtain rfl : [] = references := by simpa [resolve?] using resolved
      rfl
  | cons address rest ih =>
      obtain ⟨id, later, known, others, rfl⟩ := resolve_cons catalog input address previous rest references resolved
      rw [List.map_cons, List.map_cons, List.map_cons, ih _ later others, target?, known]
      rfl

theorem references_splat (catalog : Catalog) (input : Text) (splatted : splat <:+: input) :
    catalog.references input = .error (.splat input) := by
  rw [references, if_pos ((contains_iff splat input (by decide)).mpr splatted)]

theorem references_unsplatted (catalog : Catalog) (input : Text) (references : List Reference)
    (found : catalog.references input = .ok references) : ¬ splat <:+: input := by
  intro splatted
  rw [references_splat catalog input splatted] at found
  cases found

theorem references_plain (catalog : Catalog) (input : Text) (unsplatted : ¬ splat <:+: input)
    (plain : isInterpolated input = false) : catalog.references input = .ok [] := by
  have absent := (contains_false_iff splat input (by decide)).mpr unsplatted
  simp [references, absent, plain]

theorem references_known (catalog : Catalog) (input : Text) (unsplatted : ¬ splat <:+: input)
    (interpolated : isInterpolated input = true) (known : ∀ address ∈ mentions input, ¬ catalog.Lacks address) :
    ∃ references, catalog.references input = .ok references ∧
      (mentions input).map catalog.target? = (references.map Reference.target).map some := by
  have absent := (contains_false_iff splat input (by decide)).mpr unsplatted
  obtain ⟨references, resolved⟩ := Option.isSome_iff_exists.mp ((resolve_succeeds_iff catalog input 0 _).mpr known)
  exact ⟨references, by simp [Catalog.references, absent, interpolated, resolved],
    resolve_targets catalog input 0 _ references resolved⟩

theorem references_lacking (catalog : Catalog) (input address : Text) (unsplatted : ¬ splat <:+: input)
    (interpolated : isInterpolated input = true) (mentioned : address ∈ mentions input)
    (lacking : catalog.Lacks address) : catalog.references input = .error (.unknown input catalog) := by
  have absent := (contains_false_iff splat input (by decide)).mpr unsplatted
  have fails : catalog.resolve? input 0 (mentions input) = none := by
    rw [← Option.not_isSome_iff_eq_none, resolve_succeeds_iff]
    exact fun known => known address mentioned lacking
  simp [references, absent, interpolated, fails]

end Catalog

end Interpolation
