import Interpolation.Resolver
import Mathlib.Data.List.Forall2

set_option autoImplicit false

namespace Interpolation

def Noted.followedBy {α : Type} (first second : Noted (List α)) : Noted (List α) :=
  match first with
  | ⟨.error failure, dropped⟩ => ⟨.error failure, dropped⟩
  | ⟨.ok front, dropped⟩ => ⟨second.result.map (front ++ ·), dropped ++ second.dropped⟩

theorem lone_failed (policy : Policy) (input : Text) (reference : Reference) (failure : Failure)
    (failed : (lone policy input reference).result = .error failure) :
    lone policy input reference = ⟨.error failure, []⟩ := by
  cases text : remainder input reference with
  | nil => simp [lone, loneWith, text] at failed
  | cons c rest =>
      cases policy with
      | error => simpa [lone, loneWith, text] using failed
      | warn => simp [lone, loneWith, text] at failed
      | ignore => simp [lone, loneWith, text] at failed

theorem compose_failed (policy : Policy) (input : Text) (references : List Reference) (failure : Failure)
    (failed : (compose policy input references).result = .error failure) :
    compose policy input references = ⟨.error failure, []⟩ := by
  rw [compose] at failed ⊢
  cases sorted : sortByStart references with
  | nil => simp [sorted] at failed
  | cons reference later =>
      rw [sorted] at failed
      cases later with
      | nil => exact lone_failed policy input reference failure failed
      | cons second rest => cases failed

namespace Resolver

def Converts (resolver : Resolver) (input : Text) (expression : Expression) : Prop :=
  (resolver.convert input).result = .ok expression

def FailsFirst (resolver : Resolver) (inputs : List Text) (failure : Failure) : Prop :=
  ∃ before input after, inputs = before ++ input :: after ∧
    (∀ earlier ∈ before, ∃ expression, resolver.Converts earlier expression) ∧
    (resolver.convert input).result = .error failure

theorem convert_all_cons (resolver : Resolver) (input : Text) (rest : List Text) :
    (resolver.convertAll (input :: rest)).result =
      match (resolver.convert input).result with
      | .error failure => .error failure
      | .ok expression => (resolver.convertAll rest).result.map (expression :: ·) := by
  rw [convertAll]
  rcases resolver.convert input with ⟨_ | _, dropped⟩ <;> rfl

theorem fails_first_cons (resolver : Resolver) (input : Text) (rest : List Text) (failure : Failure) :
    resolver.FailsFirst (input :: rest) failure ↔
      (resolver.convert input).result = .error failure ∨
        ∃ expression, resolver.Converts input expression ∧ resolver.FailsFirst rest failure := by
  constructor
  · intro first
    obtain ⟨before, failing, after, eq, converted, failed⟩ := first
    cases before with
    | nil =>
        cases eq
        exact .inl failed
    | cons first before =>
        cases eq
        obtain ⟨⟨expression, here⟩, others⟩ := List.forall_mem_cons.mp converted
        exact .inr ⟨expression, here, before, failing, after, rfl, others, failed⟩
  · intro either
    rcases either with failed | ⟨expression, here, before, failing, after, rfl, converted, failed⟩
    · exact ⟨[], input, rest, rfl, by simp, failed⟩
    · have all := List.forall_mem_cons.mpr ⟨⟨expression, here⟩, converted⟩
      exact ⟨input :: before, failing, after, rfl, all, failed⟩

theorem convert_all_ok_iff (resolver : Resolver) (inputs : List Text) (expressions : List Expression) :
    (resolver.convertAll inputs).result = .ok expressions ↔ List.Forall₂ resolver.Converts inputs expressions := by
  induction inputs generalizing expressions with
  | nil => simp [convertAll, eq_comm]
  | cons input rest ih =>
      rw [List.forall₂_cons_left_iff, convert_all_cons]
      simp only [← ih, Converts]
      cases (resolver.convert input).result with
      | error failure => simp
      | ok expression => cases (resolver.convertAll rest).result <;> simp [Except.map, eq_comm]

theorem convert_all_error_iff (resolver : Resolver) (inputs : List Text) (failure : Failure) :
    (resolver.convertAll inputs).result = .error failure ↔ resolver.FailsFirst inputs failure := by
  induction inputs with
  | nil => simp [convertAll, FailsFirst]
  | cons input rest ih =>
      rw [fails_first_cons, ← ih, convert_all_cons]
      simp only [Converts]
      cases (resolver.convert input).result with
      | error other => simp
      | ok expression => cases (resolver.convertAll rest).result <;> simp [Except.map]

theorem converted_each_iff (resolver : Resolver) (inputs : List Text) :
    (∃ expressions, List.Forall₂ resolver.Converts inputs expressions) ↔
      ∀ input ∈ inputs, ∃ expression, resolver.Converts input expression := by
  induction inputs with
  | nil => simp
  | cons input rest ih =>
      rw [List.forall_mem_cons, ← ih]
      simp only [List.forall₂_cons_left_iff]
      refine ⟨?_, ?_⟩
      · intro all
        obtain ⟨_, expression, others, here, later, rfl⟩ := all
        exact ⟨⟨expression, here⟩, others, later⟩
      · intro each
        obtain ⟨⟨expression, here⟩, others, later⟩ := each
        exact ⟨_, expression, others, here, later, rfl⟩

def droppings (resolver : Resolver) (inputs : List Text) : List Dropping :=
  inputs.flatMap fun input => (resolver.convert input).dropped

theorem convert_silent (resolver : Resolver) (input : Text) (failure : Failure)
    (failed : (resolver.convert input).result = .error failure) : resolver.convert input = ⟨.error failure, []⟩ := by
  rw [convert] at failed ⊢
  cases found : resolver.references input with
  | error other =>
      rw [found] at failed
      cases failed
      rfl
  | ok references =>
      rw [found] at failed
      exact compose_failed _ input references failure failed

theorem convert_all_converted (resolver : Resolver) (inputs : List Text) (expressions : List Expression)
    (converted : List.Forall₂ resolver.Converts inputs expressions) :
    resolver.convertAll inputs = ⟨.ok expressions, resolver.droppings inputs⟩ := by
  induction converted with
  | nil => rfl
  | cons here later ih =>
      rename_i input expression rest others
      have first : resolver.convert input = ⟨.ok expression, (resolver.convert input).dropped⟩ := by rw [← here]
      rw [convertAll, first, ih]
      rfl

theorem convert_all_append (resolver : Resolver) (a b : List Text) :
    resolver.convertAll (a ++ b) = (resolver.convertAll a).followedBy (resolver.convertAll b) := by
  induction a with
  | nil =>
      rcases both : resolver.convertAll b with ⟨result, dropped⟩
      cases result <;> simp [convertAll, Noted.followedBy, both, Except.map]
  | cons input rest ih =>
      rw [List.cons_append, convertAll, convertAll, ih]
      rcases resolver.convert input with ⟨_ | expression, here⟩
      · rfl
      · -- The first input is put in front of what comes of the others, whatever that is.
        rcases resolver.convertAll rest with ⟨_ | front, dropped⟩
        · rfl
        · rcases resolver.convertAll b with ⟨_ | back, later⟩ <;> simp [Noted.followedBy, Except.map]

theorem convert_all_stopped (resolver : Resolver) (before : List Text) (input : Text) (after : List Text)
    (failure : Failure) (converted : ∀ earlier ∈ before, ∃ expression, resolver.Converts earlier expression)
    (failed : (resolver.convert input).result = .error failure) :
    resolver.convertAll (before ++ input :: after) = ⟨.error failure, resolver.droppings before⟩ := by
  obtain ⟨expressions, each⟩ := (resolver.converted_each_iff before).mpr converted
  rw [convert_all_append, convert_all_converted resolver before expressions each, convertAll,
    convert_silent resolver input failure failed]
  simp [Noted.followedBy, Except.map]

/-- Two lists in a row are converted as one after the other. All inputs become expressions, each the one it becomes
alone, just when none of them fails alone. A failure is that of the first input that fails, and only what the inputs
before it drop is noted, whatever stands behind it. -/
theorem batches_compose (resolver : Resolver) (inputs others : List Text) :
    resolver.convertAll (inputs ++ others) = (resolver.convertAll inputs).followedBy (resolver.convertAll others) ∧
    ((∃ expressions, (resolver.convertAll inputs).result = .ok expressions) ↔
      ∀ input ∈ inputs, ∃ expression, resolver.Converts input expression) ∧
    (∀ expressions, (resolver.convertAll inputs).result = .ok expressions ↔
      List.Forall₂ resolver.Converts inputs expressions) ∧
    (∀ failure, (resolver.convertAll inputs).result = .error failure ↔ resolver.FailsFirst inputs failure) ∧
    ((∀ input ∈ inputs, ∃ expression, resolver.Converts input expression) →
      (resolver.convertAll inputs).dropped = resolver.droppings inputs ∧
      ∀ input failure, (resolver.convert input).result = .error failure →
        resolver.convertAll (inputs ++ input :: others) = ⟨.error failure, resolver.droppings inputs⟩) := by
  refine ⟨resolver.convert_all_append inputs others, ?_, resolver.convert_all_ok_iff inputs,
    resolver.convert_all_error_iff inputs, ?_⟩
  · simp only [convert_all_ok_iff]
    exact resolver.converted_each_iff inputs
  · intro converted
    obtain ⟨expressions, each⟩ := (resolver.converted_each_iff inputs).mpr converted
    refine ⟨by rw [resolver.convert_all_converted inputs expressions each], ?_⟩
    intro input failure failed
    exact resolver.convert_all_stopped inputs input others failure converted failed

theorem batches_compose_unknown :
    let resolver : Resolver := ⟨⟨["var.a".toList]⟩, {}⟩
    let wrapped : Text := "${upper(var.a)}".toList
    let unknown : Text := "${var.b}".toList
    (∀ input ∈ [wrapped], ∃ expression, resolver.Converts input expression) ∧
      (resolver.convert unknown).result = .error (.unknown unknown resolver.catalog) ∧
      resolver.convertAll [wrapped, unknown, wrapped] =
        ⟨.error (.unknown unknown resolver.catalog), [⟨.warning, wrapped, "upper()".toList⟩]⟩ := by
  intro resolver wrapped unknown
  have converted : ∀ input ∈ [wrapped], ∃ expression, resolver.Converts input expression := by
    intro input member
    obtain rfl := List.mem_singleton.mp member
    exact ⟨.identifier "a".toList, rfl⟩
  have failed : (resolver.convert unknown).result = .error (.unknown unknown resolver.catalog) := rfl
  obtain ⟨_, _, _, _, noted⟩ := batches_compose resolver [wrapped] [wrapped]
  have stopped := (noted converted).2 unknown _ failed
  exact ⟨converted, failed, stopped⟩

end Resolver

end Interpolation
