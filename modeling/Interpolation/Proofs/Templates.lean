import Interpolation.Proofs.Parts

set_option autoImplicit false

namespace Interpolation

open Text

-- Gaps inside an expression are kept as they are; the first gap loses its opening mark, the gap between two
-- expressions one mark on either side of its literal, and the last gap its closing mark.
theorem later_quasis_append (marker : Marker) (layout marked bare : Layout) (unmarked : Marker.Unmarked layout.whole)
    (finals : ∀ gap, Marker.Unmarked gap →
      (laterQuasis marker (marked.behind gap).gaps).map Quasi.raw = (bare.behind gap).gaps) :
    (laterQuasis marker (layout.append marked).gaps).map Quasi.raw = (layout.append bare).gaps := by
  induction layout with
  | final gap => exact finals gap unmarked
  | spot gap word rest ih =>
      have here := Marker.unmarked_infix gap _ ⟨[], word ++ rest.whole, rfl⟩ unmarked
      have behind := Marker.unmarked_infix rest.whole _ ⟨gap ++ word, [], by simp [Layout.whole]⟩ unmarked
      rw [Layout.append, Layout.append, Layout.gaps, Layout.gaps, later_quasis_cons marker gap _
        (Layout.gaps_nonempty _), List.map_cons, ih behind, marker.without_both_absent gap here]

theorem later_quasis_parts (catalog : Catalog) (marker : Marker) (parts : List Part) (literal gap : Text)
    (separable : ∀ part ∈ parts, part.Separable catalog) (literalUnmarked : Marker.Unmarked literal)
    (unmarked : Marker.Unmarked gap) :
    (laterQuasis marker (((partLayout marker.opening marker.closing parts).behind
      (marker.closing ++ literal)).behind gap).gaps).map Quasi.raw =
      (((partLayout [] [] parts).behind literal).behind gap).gaps := by
  induction parts generalizing literal gap with
  | nil =>
      have closed := marker.without_closing_at gap literal literalUnmarked.braceless
      simp [partLayout, Layout.behind, Layout.gaps, laterQuasis, closed]
  | cons part rest ih =>
      obtain ⟨here, others⟩ := List.forall_mem_cons.mp separable
      obtain ⟨first, word, tail, layout, firstUnmarked, tailUnmarked⟩ := part_split catalog part here
      have later := later_quasis_append marker tail _ _ tailUnmarked fun last lastUnmarked =>
        ih part.literal last others here.literal.unmarked lastUnmarked
      have trimmed := marker.without_both_at gap literal first unmarked.braceless
        (marker.opening_absent first firstUnmarked)
      simp only [partLayout, layout, Layout.append, Layout.behind_spot, Layout.gaps, List.append_assoc, List.nil_append]
      rw [later_quasis_cons marker _ _ (Layout.gaps_nonempty _), List.map_cons, later, trimmed]

theorem quasis_parts (catalog : Catalog) (marker : Marker) (part : Part) (rest : List Part)
    (separable : ∀ other ∈ part :: rest, other.Separable catalog) :
    (quasis marker (partLayout marker.opening marker.closing (part :: rest)).gaps).map Quasi.raw =
      (partLayout [] [] (part :: rest)).gaps := by
  obtain ⟨here, others⟩ := List.forall_mem_cons.mp separable
  obtain ⟨first, word, tail, layout, firstUnmarked, tailUnmarked⟩ := part_split catalog part here
  have later := later_quasis_append marker tail _ _ tailUnmarked fun last lastUnmarked =>
    later_quasis_parts catalog marker rest part.literal last others here.literal.unmarked lastUnmarked
  have trimmed := marker.without_opening_front first (marker.opening_absent first firstUnmarked)
  simp only [partLayout, layout, Layout.append, Layout.behind_spot, Layout.gaps, List.nil_append]
  rw [quasis_cons marker _ _ (Layout.gaps_nonempty _), List.map_cons, later, trimmed]

theorem references_parts (catalog : Catalog) (marker : Marker) (part : Part) (rest : List Part)
    (separable : ∀ other ∈ part :: rest, other.Separable catalog) (unbraced : part.expression.head? ≠ some '{') :
    ∃ references,
      catalog.references (written marker.opening marker.closing (part :: rest)) = .ok references ∧
      (partLayout marker.opening marker.closing (part :: rest)).Lays 0 references := by
  obtain ⟨interpolated, _⟩ := written_marker catalog marker part rest (separable part List.mem_cons_self) unbraced
  have mentioned := mentions_written catalog marker part rest separable unbraced
  have spots := part_layout_spots marker.opening marker.closing (part :: rest)
  have plain : contains splat (written marker.opening marker.closing (part :: rest)) = false := by
    have absent := written_splatless catalog marker (part :: rest) separable
    rw [← contains_iff splat _ (by decide)] at absent
    simpa using absent
  have marked : ∀ word ∈ (partLayout marker.opening marker.closing (part :: rest)).spots,
      '.' ∈ word ∧ (catalog.find? (segments word)).isSome = true := by
    intro word member
    rw [spots, List.mem_flatMap] at member
    obtain ⟨other, present, inside⟩ := member
    have dotted := (List.mem_filter.mp inside).2
    exact ⟨(contains_char_iff '.' word).mp dotted, ((separable other present).known word inside).2⟩
  obtain ⟨references, resolved, lays⟩ := resolve_marked catalog _ _ [] '.' (part_layout_whole _ _ _).symm
    (part_layout_avoids_dot marker _ fun other member => (separable other member).dotless) marked
  rw [spots, ← mentioned, bytes] at resolved
  exact ⟨references, by simp [Catalog.references, plain, interpolated, resolved], lays⟩

/-- An input of parts becomes a template of its dotted atoms, whatever happens to text around lone references. Its
pieces are the text between the references with each pair of marks taken away, so they and the atoms read together as
the expressions and the literals alone. -/
theorem template_of_parts (resolver : Resolver) (marker : Marker) (parts : List Part)
    (separable : ∀ part ∈ parts, part.Separable resolver.catalog)
    (unbraced : ∀ part ∈ parts.head?, part.expression.head? ≠ some '{')
    (several : 2 ≤ (parts.flatMap fun part => dottedAtoms part.expression).length) :
    ∃ references elements,
      resolver.references (written marker.opening marker.closing parts) = .ok references ∧
      references.map (·.target.full) = parts.flatMap (fun part => dottedAtoms part.expression) ∧
      resolver.convert (written marker.opening marker.closing parts) =
        ⟨.ok (.template elements (references.map chain)), []⟩ ∧
      gaps (written marker.opening marker.closing parts) 0 references =
        (partLayout marker.opening marker.closing parts).gaps ∧
      elements.map Quasi.raw = (partLayout [] [] parts).gaps ∧
      interleave (elements.map Quasi.raw) (references.map (·.target.full)) = written [] [] parts := by
  cases parts with
  | nil => simp at several
  | cons part rest =>
      have head : part.expression.head? ≠ some '{' := unbraced part (by simp)
      obtain ⟨references, found, lays⟩ := references_parts resolver.catalog marker part rest separable head
      obtain ⟨_, same⟩ := written_marker resolver.catalog marker part rest (separable part List.mem_cons_self) head
      have whole := part_layout_whole marker.opening marker.closing (part :: rest)
      have words := (lays_spots _ 0 references lays).trans (part_layout_spots _ _ _)
      have raws := quasis_parts resolver.catalog marker part rest separable
      have many : 2 ≤ references.length := by
        rw [← words, List.length_map] at several
        exact several
      refine ⟨references, _, found, words, ?_, gaps_laid _ _ [] references whole.symm lays, raws, ?_⟩
      · rw [convert_found resolver _ references found, compose_laid _ _ _ references lays many,
          template_laid _ _ references whole lays, same]
      · rw [raws, words, ← part_layout_spots [] [], Layout.interleave_gaps, part_layout_whole]

theorem template_of_two_parts :
    let resolver : Resolver := ⟨⟨["var.a".toList, "var.b".toList, "module.m".toList]⟩, ⟨1, .error⟩⟩
    let parts : List Part := [⟨"max(var.a, var.b)".toList, " - $".toList⟩, ⟨"lower(module.m.y)".toList, " €".toList⟩]
    (∀ part ∈ parts, part.Separable resolver.catalog) ∧
    written Marker.doubled.opening Marker.doubled.closing parts =
      "${{max(var.a, var.b)}} - $${{lower(module.m.y)}} €".toList ∧
    ∃ (references : List Reference) (elements : List Quasi),
      resolver.convert "${{max(var.a, var.b)}} - $${{lower(module.m.y)}} €".toList =
        ⟨.ok (.template elements (references.map chain)), []⟩ ∧
      references.map (·.target.full) = ["var.a".toList, "var.b".toList, "module.m.y".toList] ∧
      elements.map Quasi.raw = ["max(".toList, ", ".toList, ") - $lower(".toList, ") €".toList] := by
  intro resolver parts
  have separable : ∀ part ∈ parts, part.Separable resolver.catalog := by decide +kernel
  have input : written Marker.doubled.opening Marker.doubled.closing parts =
      "${{max(var.a, var.b)}} - $${{lower(module.m.y)}} €".toList := rfl
  have spots : (parts.flatMap fun part => dottedAtoms part.expression) =
      ["var.a".toList, "var.b".toList, "module.m.y".toList] := rfl
  have raws : (partLayout [] [] parts).gaps = ["max(".toList, ", ".toList, ") - $lower(".toList, ") €".toList] := rfl
  have several : 2 ≤ (parts.flatMap fun part => dottedAtoms part.expression).length := by
    rw [spots]
    decide
  obtain ⟨references, elements, _, words, converted, _, kept, _⟩ :=
    template_of_parts resolver .doubled parts separable (by simp [parts]) several
  rw [input] at converted
  exact ⟨separable, input, references, elements, converted, words.trans spots, kept.trans raws⟩

end Interpolation
