import Interpolation.Proofs.Naming
import Interpolation.Proofs.Partition
import Interpolation.Proofs.Segments
import Mathlib.Data.List.Forall2

set_option autoImplicit false

namespace Interpolation

open Text

theorem pieces_unseparated (t : Text) (whole : ∀ mark ∈ separators, ¬ mark <:+: t) : pieces t = [t] := by
  fun_induction pieces t with
  | case1 => rfl
  | case2 rest => exact absurd ⟨[], rest, rfl⟩ (whole ['&', '&'] (by simp [separators]))
  | case3 rest => exact absurd ⟨[], rest, rfl⟩ (whole ['|', '|'] (by simp [separators]))
  | case4 c rest _ _ delimits => exact absurd ⟨[], rest, rfl⟩ (whole [c] (delimiter_separates c delimits))
  | case5 c rest _ _ plain ih =>
      rw [ih fun mark separates inside => whole mark separates (List.infix_cons inside)]
      rfl

theorem atoms_whole_iff (t : Text) : atoms t = [t] ↔ t ≠ [] ∧ ∀ mark ∈ separators, ¬ mark <:+: t := by
  constructor
  · intro whole
    have member : t ∈ atoms t := by rw [whole]; exact List.mem_singleton_self t
    obtain ⟨piece, filled⟩ := List.mem_filter.mp member
    exact ⟨by simpa using filled, piece_unseparated t t piece⟩
  · intro ⟨filled, whole⟩
    rw [atoms, pieces_unseparated t whole]
    simpa using filled

theorem atom_whole (t atom : Text) (member : atom ∈ atoms t) : atoms atom = [atom] := by
  obtain ⟨piece, filled⟩ := List.mem_filter.mp member
  exact (atoms_whole_iff atom).mpr ⟨by simpa using filled, piece_unseparated t atom piece⟩

theorem addresses_whole (t address : Text) (member : address ∈ addresses t) : addresses address = [address] := by
  obtain ⟨atom, addressed⟩ := List.mem_filter.mp member
  simp [addresses, atom_whole t address atom, addressed]

theorem mention_unbraced (input address : Text) (mentioned : address ∈ mentions input) :
    address.head? ≠ some '{' := by
  obtain ⟨_, _, undelimited⟩ := mention_facts input address mentioned
  intro braced
  have brace := undelimited '{' (List.mem_of_mem_head? braced)
  cases brace

theorem mention_dotted (input address : Text) (mentioned : address ∈ mentions input) : '.' ∈ address := by
  obtain ⟨_, addressed, _⟩ := mention_facts input address mentioned
  simp only [isAddress, Bool.and_eq_true] at addressed
  exact (contains_char_iff '.' address).mp addressed.1.1.1.1

theorem mention_alone (input address : Text) (mentioned : address ∈ mentions input) (colonless : ':' ∉ address) :
    mentions (interpolation address) = [address] := by
  rw [interpolation_mentions address (mention_unbraced input address mentioned), collection_colonless address colonless]
  exact addresses_whole _ address mentioned

theorem mention_splatless (input address : Text) (mentioned : address ∈ mentions input) :
    ¬ splat <:+: interpolation address := by
  obtain ⟨_, _, undelimited⟩ := mention_facts input address mentioned
  intro splatted
  have star : '*' ∈ interpolation address := splatted.subset (by simp [splat])
  simp [interpolation, Marker.opening, Marker.closing] at star
  have plain := undelimited '*' star
  cases plain

theorem anchor_alone (address : Text) (dotted : '.' ∈ address) : anchor (interpolation address) address 0 = 2 := by
  have cut := cut_unshared address Marker.single.opening Marker.single.closing '.' (by simp [Marker.opening]) dotted
  have found : offset? address (onward 0 (interpolation address)) = some 2 := by
    have start := onward_bytes [] (interpolation address)
    rw [List.nil_append, bytes] at start
    rw [start, offset?, interpolation, cut]
    rfl
  exact anchor_forward (interpolation address) address 0 2 found

theorem references_alone (catalog : Catalog) (input : Text) (references : List Reference)
    (found : catalog.references input = .ok references) (reference : Reference) (member : reference ∈ references)
    (colonless : ':' ∉ reference.target.full) :
    catalog.references (interpolation reference.target.full) =
      .ok [⟨2, 2 + bytes reference.target.full, reference.target⟩] := by
  have mentioned := reference_mentioned catalog input references found reference member
  have known := (catalog.find_some_iff _ _).mpr (references_first catalog input references found reference member)
  have unsplatted := (contains_false_iff splat _ (by decide)).mpr (mention_splatless input _ mentioned)
  have place := anchor_alone reference.target.full (mention_dotted input _ mentioned)
  simp [Catalog.references, unsplatted, interpolation_interpolated, mention_alone input _ mentioned colonless,
    Catalog.resolve?, known, place, Reference.anchored]

theorem lone_bare (policy : Policy) (input : Text) (reference : Reference) (nothing : remainder input reference = []) :
    lone policy input reference = ⟨.ok (chain reference), []⟩ := by
  rw [lone, nothing, loneWith]

theorem converts_alone (resolver : Resolver) (input : Text) (references : List Reference)
    (found : resolver.references input = .ok references) (reference : Reference) (member : reference ∈ references)
    (colonless : ':' ∉ reference.target.full) (policy : Policy) :
    (resolver.withPolicy policy).convert (interpolation reference.target.full) = ⟨.ok (chain reference), []⟩ := by
  have foundAlone := references_alone resolver.catalog input references found reference member colonless
  have mentioned := reference_mentioned resolver.catalog input references found reference member
  have marker := interpolation_marker reference.target.full (mention_unbraced input _ mentioned)
  have nothing : remainder (interpolation reference.target.full)
      ⟨2, 2 + bytes reference.target.full, reference.target⟩ = [] := by
    rw [remainder_empty_iff resolver.catalog _ _ foundAlone, marker]
    rfl
  rw [convert_found (resolver.withPolicy policy) _ _ foundAlone]
  exact lone_bare policy _ _ nothing

theorem template_chains (resolver : Resolver) (input : Text) (references : List Reference) (elements : List Quasi)
    (expressions : List Expression) (found : resolver.references input = .ok references)
    (converted : (resolver.convert input).result = .ok (.template elements expressions)) :
    expressions = references.map chain := by
  rw [convert_found resolver input references found] at converted
  have many := composed_template _ input references elements expressions converted
  rw [compose_several _ input references many, references_sorted resolver.catalog input references found] at converted
  exact (Expression.template.inj (Except.ok.inj converted)).2.symm

/-- Each reference of an input, unless a colon stands in its address, is the one reference of the interpolation that
holds this address alone, and it is converted there to its chain with nothing dropped, whatever the policy. So the
expressions of a template are what its references become on their own. -/
theorem references_stand_alone (resolver : Resolver) (input : Text) (references : List Reference)
    (found : resolver.references input = .ok references) :
    (∀ reference ∈ references, ':' ∉ reference.target.full →
      resolver.references (interpolation reference.target.full) =
        .ok [⟨2, 2 + bytes reference.target.full, reference.target⟩] ∧
      ∀ policy, (resolver.withPolicy policy).convert (interpolation reference.target.full) =
        ⟨.ok (chain reference), []⟩) ∧
    ∀ elements expressions, (resolver.convert input).result = .ok (.template elements expressions) →
      List.Forall₂ (fun reference expression => ':' ∉ reference.target.full → ∀ policy,
        (resolver.withPolicy policy).convert (interpolation reference.target.full) = ⟨.ok expression, []⟩)
        references expressions := by
  refine ⟨?_, ?_⟩
  · intro reference member colonless
    exact ⟨references_alone resolver.catalog input references found reference member colonless,
      converts_alone resolver input references found reference member colonless⟩
  · intro elements expressions converted
    rw [template_chains resolver input references elements expressions found converted, List.forall₂_map_right_iff,
      List.forall₂_same]
    intro reference member colonless
    exact converts_alone resolver input references found reference member colonless

theorem references_stand_alone_comprehension :
    let resolver : Resolver := ⟨⟨["var.a".toList, "module.for".toList]⟩, ⟨1, .error⟩⟩
    let input : Text := "${[for k in -var.a&&module.for.in|x : k]}%".toList
    let references : List Reference := [.anchored 13 "var.a".toList "var.a".toList,
      .anchored 20 "module.for".toList "module.for.in|x".toList]
    resolver.references input = .ok references ∧ ':' ∉ "module.for.in|x".toList ∧
      resolver.references "${module.for.in|x}".toList =
        .ok [⟨2, 17, ⟨"module.for".toList, "module.for.in|x".toList⟩⟩] ∧
      resolver.convert "${module.for.in|x}".toList = ⟨.ok (addressChain "module.for.in|x".toList), []⟩ := by
  intro resolver input references
  have found : resolver.references input = .ok references := rfl
  have colonless : ':' ∉ "module.for.in|x".toList := by decide
  obtain ⟨alone, _⟩ := references_stand_alone resolver input references found
  obtain ⟨again, converted⟩ := alone (.anchored 20 "module.for".toList "module.for.in|x".toList) (by decide) colonless
  exact ⟨found, colonless, again, converted .error⟩

end Interpolation
