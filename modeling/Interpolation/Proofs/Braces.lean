import Interpolation.Proofs.Gaps
import Interpolation.Proofs.Templates

set_option autoImplicit false

namespace Interpolation

open Text

theorem without_both_length (marker : Marker) (t : Text) : (marker.withoutBoth t).length ≤ t.length :=
  Nat.le_trans (erase_last_length _ _) (erase_first_length _ _)

theorem without_both_shorter (t : Text) (brace : '}' ∈ t) : (Marker.single.withoutBoth t).length < t.length := by
  have present : Marker.single.closing <:+: t :=
    (contains_iff _ t (by decide)).mp ((contains_char_iff '}' t).mpr brace)
  exact Nat.lt_of_le_of_lt (erase_last_length _ _) (erase_first_shorter _ t (by decide) present)

def laterText (stem : Layout) : Text :=
  interleave ((laterQuasis .single (stem.append (.final Marker.single.closing)).gaps).map Quasi.raw) stem.spots

theorem later_text_final (gap : Text) : laterText (.final gap) = gap := Marker.single.without_closing_end gap

theorem later_text_spot (gap word : Text) (rest : Layout) :
    laterText (.spot gap word rest) = Marker.single.withoutBoth gap ++ (word ++ laterText rest) := by
  rw [laterText, Layout.append, Layout.gaps, later_quasis_cons _ gap _ (Layout.gaps_nonempty _)]
  rfl

theorem later_text_length (stem : Layout) : (laterText stem).length ≤ stem.whole.length := by
  induction stem with
  | final gap =>
      rw [later_text_final]
      exact Nat.le_refl _
  | spot gap word rest ih =>
      have here := without_both_length .single gap
      simp only [later_text_spot, Layout.whole, List.length_append]
      omega

theorem later_text_iff (stem : Layout) (unopened : ¬ Marker.single.opening <:+: stem.whole) :
    laterText stem = stem.whole ↔ ∀ gap ∈ stem.leading, '}' ∉ gap := by
  induction stem with
  | final gap => simp [later_text_final, Layout.whole, Layout.leading]
  | spot gap word rest ih =>
      have restInside : rest.whole <:+: (Layout.spot gap word rest).whole :=
        ⟨gap ++ word, [], by simp [Layout.whole]⟩
      have gapInside : gap <:+: (Layout.spot gap word rest).whole := ⟨[], word ++ rest.whole, rfl⟩
      have later := ih fun opens => unopened (opens.trans restInside)
      rw [later_text_spot, Layout.whole, Layout.leading, List.forall_mem_cons, ← later]
      constructor
      · intro same
        have braceless : '}' ∉ gap := by
          intro brace
          have lost := without_both_shorter gap brace
          have others := later_text_length rest
          have size := congrArg List.length same
          simp only [List.length_append] at size
          omega
        rw [Marker.single.without_both_absent gap ⟨braceless, fun opens => unopened (opens.trans gapInside)⟩] at same
        exact ⟨braceless, List.append_cancel_left (List.append_cancel_left same)⟩
      · rintro ⟨braceless, same⟩
        rw [Marker.single.without_both_absent gap ⟨braceless, fun opens => unopened (opens.trans gapInside)⟩, same]

theorem enclosed_text (front word : Text) (stem : Layout) (unopened : ¬ Marker.single.opening <:+: front) :
    interleave ((quasis .single (Layout.spot (Marker.single.opening ++ front) word
      (stem.append (.final Marker.single.closing))).gaps).map Quasi.raw) (word :: stem.spots) =
      front ++ (word ++ laterText stem) := by
  rw [Layout.gaps, quasis_cons .single _ _ (Layout.gaps_nonempty _), List.map_cons,
    Marker.single.without_opening_front front unopened]
  rfl

/-- A template of one expression between the single marks gives the expression back exactly when no closing brace stands
between two neighbouring references: the first brace there is taken for a mark, and it belongs to the expression. -/
theorem template_whole_iff (resolver : Resolver) (expression : Text) (references : List Reference)
    (elements : List Quasi) (expressions : List Expression) (unbraced : expression.head? ≠ some '{')
    (unopened : ¬ Marker.single.opening <:+: expression)
    (found : resolver.references (Marker.single.opening ++ (expression ++ Marker.single.closing)) = .ok references)
    (converted : (resolver.convert (Marker.single.opening ++ (expression ++ Marker.single.closing))).result =
      .ok (.template elements expressions)) :
    interleave (elements.map Quasi.raw) (references.map (·.target.full)) = expression ↔
      ∀ pair ∈ references.zip references.tail, '}' ∉ between pair.1.stop pair.2.start
        (Marker.single.opening ++ (expression ++ Marker.single.closing)) := by
  generalize same : Marker.single.opening ++ (expression ++ Marker.single.closing) = input at found converted ⊢
  rw [convert_found resolver input references found] at converted
  have many := composed_template _ input references elements expressions converted
  have marker : Marker.ofText input = .single := by
    rw [← same]
    apply Marker.single.opened_marker
    cases expression with
    | nil => simp [Marker.closing]
    | cons c rest => simpa using unbraced
  obtain ⟨layout, whole, lays, mentioned, ending⟩ := references_laid resolver.catalog input references found
    (List.ne_nil_of_length_pos (by omega))
  have words := lays_spots layout 0 references lays
  rw [marker] at ending
  obtain ⟨front, word, stem, rfl, rfl⟩ := enclosed_layout .single expression layout (whole.trans same.symm)
    (by rw [← words]; exact List.ne_nil_of_length_pos (by rw [List.length_map]; omega))
    (mentioned.trans (congrArg mentions whole.symm)) ending
  obtain ⟨first, later, rfl, start, full, stop, others⟩ := lays_cons _ word _ [] references lays
  rw [compose_laid _ input _ _ lays many, template_laid input _ _ whole lays, marker] at converted
  obtain ⟨rfl, _⟩ := Expression.template.inj (Except.ok.inj converted)
  have laterWords : later.map (·.target.full) = stem.spots := by
    rw [lays_spots _ _ later others, Layout.spots_append, Layout.spots, List.append_nil]
  have frontUnopened : ¬ Marker.single.opening <:+: front := fun opens => unopened (opens.trans ⟨[], _, rfl⟩)
  have stemUnopened : ¬ Marker.single.opening <:+: stem.whole :=
    fun opens => unopened (opens.trans ⟨front ++ word, [], by simp⟩)
  have gaps := between_laid input (stem.append (.final Marker.single.closing)) _ first later
    (by rw [← whole]; simp [Layout.whole]) stop others
  rw [List.map_cons, laterWords, full, enclosed_text front word stem frontUnopened, List.append_right_inj,
    List.append_right_inj, later_text_iff stem stemUnopened, ← Layout.leading_append_final stem, ← gaps,
    List.forall_mem_map]
  rfl

theorem template_whole_object :
    let resolver : Resolver := ⟨⟨["var.a".toList, "var.b".toList]⟩, ⟨1, .error⟩⟩
    let expression : Text := "merge({x = var.a}, var.b)".toList
    let input : Text := Marker.single.opening ++ (expression ++ Marker.single.closing)
    let references : List Reference :=
      [.anchored 13 "var.a".toList "var.a".toList, .anchored 21 "var.b".toList "var.b".toList]
    let elements : List Quasi := [⟨"merge(\x7bx = ".toList, false⟩, ⟨", ".toList, false⟩, ⟨")".toList, true⟩]
    resolver.references input = .ok references ∧
      resolver.convert input = ⟨.ok (.template elements (references.map chain)), []⟩ ∧
      interleave (elements.map Quasi.raw) (references.map (·.target.full)) ≠ expression := by
  intro resolver expression input references elements
  have found : resolver.references input = .ok references := rfl
  have converted : resolver.convert input = ⟨.ok (.template elements (references.map chain)), []⟩ := by
    rw [convert_found resolver input references found]
    rfl
  have whole := template_whole_iff resolver expression references elements (references.map chain) (by decide)
    (by decide +kernel) found (by rw [converted])
  refine ⟨found, converted, ?_⟩
  intro same
  have lost : '}' ∈ between 18 21 input := by decide +kernel
  exact whole.mp same _ List.mem_cons_self lost

end Interpolation
