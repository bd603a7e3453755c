import Interpolation.Proofs.Remainders
import Interpolation.Proofs.Targets

set_option autoImplicit false

namespace Interpolation

open Text

def addressChain (address : Text) : Expression :=
  Expression.access (.identifier (entityName address)) (properties (segments address))

structure Catalog.Names (catalog : Catalog) (addresses : List Text) (references : List Reference) : Prop where
  words : references.map (·.target.full) = addresses
  first : ∀ reference ∈ references, catalog.FirstMatch reference.target.full reference.target.id

theorem chain_address (reference : Reference) : chain reference = addressChain reference.target.full := rfl

theorem targets_named (catalog : Catalog) (addresses : List Text) (references : List Reference)
    (targeted : addresses.map catalog.target? = (references.map Reference.target).map some) :
    catalog.Names addresses references := by
  obtain ⟨words, first⟩ := catalog.targets_looked_up addresses _ targeted
  rw [List.map_map] at words
  exact ⟨words, fun reference member => first reference.target (List.mem_map_of_mem member)⟩

theorem lone_result (policy : Policy) (input : Text) (reference : Reference) :
    (lone policy input reference).result =
      if policy = .error ∧ remainder input reference ≠ [] then .error (.discarded input (remainder input reference))
      else .ok (chain reference) := by
  cases policy with
  | error =>
      rw [lone_error]
      by_cases nothing : remainder input reference = [] <;> simp [nothing]
  | warn => simp [lone_warn]
  | ignore => simp [lone_ignore]

theorem template_elements (input : Text) (references : List Reference) :
    ∃ elements : List Quasi, elements.length = references.length + 1 ∧
      template input references = .template elements (references.map chain) :=
  ⟨_, by rw [quasis_length, gaps_length], rfl⟩

theorem convert_failed (resolver : Resolver) (input : Text) (failure : Failure)
    (failed : resolver.references input = .error failure) : resolver.convert input = ⟨.error failure, []⟩ := by
  rw [Resolver.convert, failed]

/-- A splat is refused and plain text stays a literal. In other inputs one address that the catalog lacks refuses all of
it; known addresses become references in their order, which no sort changes, and the input becomes the literal, the
chain of the lone address, or a template with the chains of all of them. -/
theorem convert_outcomes (resolver : Resolver) (input : Text) :
    (splat <:+: input → resolver.convert input = ⟨.error (.splat input), []⟩) ∧
    (¬ splat <:+: input →
      (¬ Marker.single.opening <+: input → resolver.references input = .ok [] ∧
        resolver.convert input = ⟨.ok (.literal input), []⟩) ∧
      (Marker.single.opening <+: input →
        (∀ address ∈ mentions input, resolver.catalog.Lacks address →
          resolver.references input = .error (.unknown input resolver.catalog) ∧
          resolver.convert input = ⟨.error (.unknown input resolver.catalog), []⟩) ∧
        ((∀ address ∈ mentions input, ¬ resolver.catalog.Lacks address) → ∃ references,
          resolver.references input = .ok references ∧
          resolver.catalog.Names (mentions input) references ∧
          sortByStart references = references ∧
          (references = [] → resolver.convert input = ⟨.ok (.literal input), []⟩) ∧
          (∀ reference, references = [reference] → (resolver.convert input).result =
            if resolver.settings.policy = .error ∧ remainder input reference ≠ [] then
              .error (.discarded input (remainder input reference))
            else .ok (addressChain reference.target.full)) ∧
          (2 ≤ references.length → ∃ elements : List Quasi, elements.length = (mentions input).length + 1 ∧
            resolver.convert input = ⟨.ok (.template elements ((mentions input).map addressChain)), []⟩)))) ∧
    (Failure.unknown input resolver.catalog).message = "unknown reference: ".toList ++ input ++
      " was not found in ".toList ++ (Json.array (resolver.catalog.ids.map .string)).compact := by
  refine ⟨?_, ?_, rfl⟩
  · intro splatted
    exact convert_failed resolver input _ (resolver.catalog.references_splat input splatted)
  · intro unsplatted
    refine ⟨?_, ?_⟩
    · intro unopened
      have plain : isInterpolated input = false := by
        rw [isInterpolated, ← Bool.not_eq_true, starts_with_iff]
        exact unopened
      have found := resolver.catalog.references_plain input unsplatted plain
      exact ⟨found, convert_found resolver input [] found⟩
    · intro opened
      have interpolated : isInterpolated input = true := (starts_with_iff _ input).mpr opened
      refine ⟨?_, ?_⟩
      · intro address mentioned lacking
        have failed := resolver.catalog.references_lacking input address unsplatted interpolated mentioned lacking
        exact ⟨failed, convert_failed resolver input _ failed⟩
      · intro known
        obtain ⟨references, found, targets⟩ := resolver.catalog.references_known input unsplatted interpolated known
        have named := targets_named resolver.catalog (mentions input) references targets
        have sorted := references_sorted resolver.catalog input references found
        have converted := convert_found resolver input references found
        refine ⟨references, found, named, sorted, ?_, ?_, ?_⟩
        · intro empty
          subst references
          exact converted
        · intro reference same
          subst references
          rw [converted, ← chain_address]
          exact lone_result resolver.settings.policy input reference
        · intro many
          obtain ⟨elements, size, made⟩ := template_elements input references
          refine ⟨elements, by rw [size, ← named.words, List.length_map], ?_⟩
          rw [converted, compose_several _ input references many, sorted, made, ← named.words, List.map_map]
          rfl

theorem convert_outcomes_pair :
    let resolver : Resolver := ⟨⟨["plain".toList, "var.a".toList, "module.m".toList]⟩, ⟨1, .error⟩⟩
    let known : Text := "${max(module.m.size, var.a)}".toList
    let unknown : Text := "${max(var.a, var.b)}".toList
    (∃ elements : List Quasi, elements.length = 3 ∧ resolver.convert known =
      ⟨.ok (.template elements [addressChain "module.m.size".toList, addressChain "var.a".toList]), []⟩) ∧
    resolver.convert unknown = ⟨.error (.unknown unknown resolver.catalog), []⟩ ∧
    (Failure.unknown unknown resolver.catalog).message = "unknown reference: ".toList ++ unknown ++
      " was not found in [\"plain\",\"var.a\",\"module.m\"]".toList := by
  intro resolver known unknown
  have knownMentions : mentions known = ["module.m.size".toList, "var.a".toList] := rfl
  have unknownMentions : mentions unknown = ["var.a".toList, "var.b".toList] := rfl
  have declared : ∀ address ∈ mentions known, ¬ resolver.catalog.Lacks address := by
    rw [knownMentions]
    decide
  have lacking : resolver.catalog.Lacks "var.b".toList := by decide
  obtain ⟨_, knownRows, _⟩ := convert_outcomes resolver known
  obtain ⟨_, unknownRows, message⟩ := convert_outcomes resolver unknown
  obtain ⟨references, _, named, _, _, _, several⟩ := ((knownRows (by decide +kernel)).2 (by decide)).2 declared
  have many : 2 ≤ references.length := by
    have size := congrArg List.length named.words
    rw [List.length_map, knownMentions] at size
    simp [size]
  obtain ⟨_, refused⟩ := ((unknownRows (by decide +kernel)).2 (by decide)).1 "var.b".toList
    (by rw [unknownMentions]; decide) lacking
  obtain ⟨elements, size, converted⟩ := several many
  rw [knownMentions] at size converted
  refine ⟨⟨elements, size, converted⟩, refused, message.trans ?_⟩
  decide +kernel

end Interpolation
