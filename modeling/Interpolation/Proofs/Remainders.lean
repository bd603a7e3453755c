import Interpolation.Proofs.Gaps

set_option autoImplicit false

namespace Interpolation

open Text

theorem lone_laid (catalog : Catalog) (input : Text) (reference : Reference)
    (found : catalog.references input = .ok [reference]) :
    ∃ front tail, input = (Marker.ofText input).opening ++ (front ++ (reference.target.full ++ tail)) ∧
      reference.start = bytes ((Marker.ofText input).opening ++ front) ∧
      reference.stop = reference.start + bytes reference.target.full ∧
      (Marker.ofText input).closing.length ≤ tail.length := by
  obtain ⟨layout, whole, lays, mentioned, ending⟩ := references_laid catalog input [reference] found (by simp)
  have interpolated : isInterpolated input = true := by
    rcases references_resolved catalog input [reference] found with ⟨_, empty⟩ | ⟨interpolated, _⟩
    · cases empty
    · exact interpolated
  obtain ⟨inner, opened⟩ := interpolated_opening input interpolated
  cases layout with
  | final gap => cases lays_empty gap 0 [reference] lays
  | spot gap word rest =>
      obtain ⟨_, _, same, start, full, _, others⟩ := lays_cons gap word rest [] [reference] lays
      obtain ⟨rfl, rfl⟩ := List.cons.inj same
      cases rest with
      | spot next other rest => cases others.1
      | final tail =>
          obtain ⟨front, rfl⟩ := gap_opened _ inner gap word (.final tail) (whole.trans opened)
            (mentioned.trans (congrArg mentions whole.symm))
          refine ⟨front, tail, ?_, by simpa [bytes] using start, lays.2 reference (by simp), ending⟩
          rw [full]
          simpa [Layout.whole] using whole.symm

theorem remainder_at (input left right : Text) (reference : Reference)
    (split : input = left ++ (reference.target.full ++ right)) (start : reference.start = bytes left)
    (stop : reference.stop = reference.start + bytes reference.target.full) :
    remainder input reference =
      (Marker.ofText input).withoutOpening left ++ (Marker.ofText input).withoutClosing right := by
  have upper : upTo reference.start input = left := by rw [start, split, up_to_bytes]
  have lower : onward reference.stop input = right := by
    rw [stop, start, ← bytes_append, split, ← List.append_assoc, onward_bytes]
  rw [remainder, upper, lower]

theorem remainder_empty_iff (catalog : Catalog) (input : Text) (reference : Reference)
    (found : catalog.references input = .ok [reference]) :
    remainder input reference = [] ↔
      input = (Marker.ofText input).opening ++ (reference.target.full ++ (Marker.ofText input).closing) := by
  obtain ⟨front, tail, split, start, stop, long⟩ := lone_laid catalog input reference found
  have text := remainder_at input _ tail reference (by rw [List.append_assoc]; exact split) start stop
  generalize Marker.ofText input = marker at *
  have tailFilled : tail ≠ [] := by
    rintro rfl
    exact marker.closing_filled (List.eq_nil_of_length_eq_zero (by simpa using long))
  rw [text, List.append_eq_nil_iff, Marker.withoutOpening, Marker.withoutClosing,
    erase_last_nil_iff _ _ marker.opening_filled, erase_last_nil_iff _ _ marker.closing_filled]
  constructor
  · rintro ⟨before, after⟩
    have opening : marker.opening ++ front = marker.opening :=
      before.resolve_left (by simp [marker.opening_filled])
    have closing : tail = marker.closing := after.resolve_left tailFilled
    rw [split, ← List.append_assoc, opening, closing]
  · intro exact
    have rest : front ++ (reference.target.full ++ tail) = reference.target.full ++ marker.closing :=
      List.append_cancel_left (split.symm.trans exact)
    have size := congrArg List.length rest
    simp only [List.length_append] at size
    obtain rfl : front = [] := List.eq_nil_of_length_eq_zero (by omega)
    exact ⟨.inr (by simp), .inr (List.append_cancel_left rest)⟩

theorem lone_error (input : Text) (reference : Reference) :
    lone .error input reference = ⟨if remainder input reference = [] then .ok (chain reference)
      else .error (.discarded input (remainder input reference)), []⟩ := by
  cases text : remainder input reference <;> simp [lone, loneWith, text]

theorem lone_warn (input : Text) (reference : Reference) :
    lone .warn input reference = ⟨.ok (chain reference), if remainder input reference = [] then []
      else [⟨.warning, input, remainder input reference⟩]⟩ := by
  cases text : remainder input reference <;> simp [lone, loneWith, text]

theorem lone_ignore (input : Text) (reference : Reference) :
    lone .ignore input reference = ⟨.ok (chain reference), if remainder input reference = [] then []
      else [⟨.debug, input, remainder input reference⟩]⟩ := by
  cases text : remainder input reference <;> simp [lone, loneWith, text]

/-- What happens to the text around a lone reference. As an error it stops the conversion; otherwise the conversion
succeeds and notes the same text. No text is left over just when the input is the reference between its marks, and what
stands beside the reference inside the marks is left over as it is. -/
theorem lone_reference_remainder (resolver : Resolver) (input : Text) (reference : Reference)
    (found : resolver.references input = .ok [reference]) :
    let marker := Marker.ofText input
    let text := remainder input reference
    (text = [] ↔ input = marker.opening ++ (reference.target.full ++ marker.closing)) ∧
      ((resolver.withPolicy .error).convert input =
        ⟨if text = [] then .ok (chain reference) else .error (.discarded input text), []⟩) ∧
      ((resolver.withPolicy .warn).convert input =
        ⟨.ok (chain reference), if text = [] then [] else [⟨.warning, input, text⟩]⟩) ∧
      ((resolver.withPolicy .ignore).convert input =
        ⟨.ok (chain reference), if text = [] then [] else [⟨.debug, input, text⟩]⟩) ∧
      ∀ before after, input = marker.opening ++ (before ++ (reference.target.full ++ (after ++ marker.closing))) →
        reference.start = bytes (marker.opening ++ before) → ¬ marker.opening <:+: before → text = before ++ after := by
  intro marker text
  have converted (policy : Policy) :
      (resolver.withPolicy policy).convert input = lone policy input reference := by
    rw [convert_found (resolver.withPolicy policy) input [reference] found]
    rfl
  refine ⟨remainder_empty_iff resolver.catalog input reference found, ?_, ?_, ?_, ?_⟩
  · rw [converted, lone_error]
  · rw [converted, lone_warn]
  · rw [converted, lone_ignore]
  · intro before after split start unopened
    obtain ⟨_, _, _, _, stop, _⟩ := lone_laid resolver.catalog input reference found
    have parts := remainder_at input (marker.opening ++ before) (after ++ marker.closing) reference
      (by rw [List.append_assoc]; exact split) start stop
    rwa [marker.without_opening_front before unopened, marker.without_closing_end after] at parts

theorem lone_reference_call :
    let resolver : Resolver := ⟨⟨["var.a".toList]⟩, ⟨1, .ignore⟩⟩
    let input : Text := "${{lower(var.a)}}".toList
    let reference := Reference.anchored 9 "var.a".toList "var.a".toList
    resolver.references input = .ok [reference] ∧
      (resolver.withPolicy .error).convert input = ⟨.error (.discarded input "lower()".toList), []⟩ ∧
      (resolver.withPolicy .warn).convert input = ⟨.ok (chain reference), [⟨.warning, input, "lower()".toList⟩]⟩ := by
  intro resolver input reference
  have found : resolver.references input = .ok [reference] := rfl
  obtain ⟨_, error, warn, _, inside⟩ := lone_reference_remainder resolver input reference found
  have text : remainder input reference = "lower()".toList :=
    inside "lower(".toList ")".toList rfl rfl (by decide +kernel)
  have filled : ¬ "lower()".toList = [] := by decide
  simp only [text, if_neg filled] at error warn
  exact ⟨found, error, warn⟩

end Interpolation
