import Interpolation.Resolver
import Interpolation.Proofs.Anchoring
import Interpolation.Proofs.Trimming
import Mathlib.Data.List.Sort

set_option autoImplicit false

namespace Interpolation

open Text

instance : Std.Total fun a b : Reference => a.start ≤ b.start := ⟨fun a b => Nat.le_total a.start b.start⟩

instance : IsTrans Reference fun a b => a.start ≤ b.start := ⟨fun _ _ _ => Nat.le_trans⟩

theorem insert_by_start_eq (reference : Reference) (rest : List Reference) :
    insertByStart reference rest = rest.orderedInsert (fun a b => a.start ≤ b.start) reference := by
  induction rest with
  | nil => rfl
  | cons head rest ih => rw [insertByStart, List.orderedInsert_cons, ih]

theorem sort_by_start_eq (references : List Reference) :
    sortByStart references = references.insertionSort fun a b => a.start ≤ b.start := by
  induction references with
  | nil => rfl
  | cons reference rest ih => rw [sortByStart, insert_by_start_eq, List.insertionSort_cons, ih]

theorem sort_by_start_perm (references : List Reference) : (sortByStart references).Perm references := by
  rw [sort_by_start_eq]
  exact List.perm_insertionSort _ references

theorem sort_by_start_sorted (references : List Reference) :
    (sortByStart references).Pairwise fun a b => a.start ≤ b.start := by
  rw [sort_by_start_eq]
  exact List.pairwise_insertionSort _ references

theorem sort_sorted (references : List Reference) (sorted : references.Pairwise fun a b => a.start ≤ b.start) :
    sortByStart references = references := by
  rw [sort_by_start_eq]
  exact sorted.insertionSort_eq

theorem lays_sorted (layout : Layout) (reached : Nat) (references : List Reference)
    (lays : layout.Lays reached references) : references.Pairwise fun a b => a.start ≤ b.start := by
  refine (lays_ordered layout reached references lays).imp_of_mem ?_
  intro a b member _ apart
  have stop := lays.2 a member
  omega

theorem references_sorted (catalog : Catalog) (input : Text) (references : List Reference)
    (found : catalog.references input = .ok references) : sortByStart references = references := by
  cases references with
  | nil => rfl
  | cons reference rest =>
      obtain ⟨layout, _, lays, _⟩ := references_laid catalog input _ found (by simp)
      exact sort_sorted _ (lays_sorted layout 0 _ lays)

theorem lays_empty (gap : Text) (reached : Nat) (references : List Reference)
    (lays : (Layout.final gap).Lays reached references) : references = [] := by
  simpa [Layout.Lays, Layout.sites] using lays.1

theorem lays_cons (gap word : Text) (rest : Layout) (done : Text) (references : List Reference)
    (lays : (Layout.spot gap word rest).Lays (bytes done) references) :
    ∃ reference later, references = reference :: later ∧ reference.start = bytes done + bytes gap ∧
      reference.target.full = word ∧ reference.stop = bytes (done ++ (gap ++ word)) ∧
      rest.Lays (bytes (done ++ (gap ++ word))) later := by
  obtain ⟨sites, stops⟩ := lays
  cases references with
  | nil => simp [Layout.sites] at sites
  | cons reference later =>
      have reached : bytes (done ++ (gap ++ word)) = bytes done + bytes gap + bytes word := by
        simp [bytes_append, Nat.add_assoc]
      rw [List.map_cons, Layout.sites, ← reached] at sites
      obtain ⟨here, others⟩ := List.cons.inj sites
      obtain ⟨start, full⟩ := Site.mk.inj here
      refine ⟨reference, later, rfl, start, full, ?_, others, fun other member => stops other (by simp [member])⟩
      rw [stops reference (by simp), start, full, reached]

theorem gaps_laid (input : Text) (layout : Layout) (done : Text) (references : List Reference)
    (split : input = done ++ layout.whole) (lays : layout.Lays (bytes done) references) :
    gaps input (bytes done) references = layout.gaps := by
  induction layout generalizing done references with
  | final gap =>
      rw [lays_empty gap _ references lays, gaps, split, onward_bytes]
      rfl
  | spot gap word rest ih =>
      obtain ⟨reference, later, rfl, start, _, stop, others⟩ := lays_cons gap word rest done references lays
      have whole : input = (done ++ (gap ++ word)) ++ rest.whole := by simp [split, Layout.whole]
      have reached : max (bytes done) reference.stop = bytes (done ++ (gap ++ word)) := by
        rw [stop, bytes_append]
        omega
      rw [gaps, Layout.gaps, reached, ih _ later whole others, start, split, Layout.whole, between_bytes]

theorem compose_several (policy : Policy) (input : Text) (references : List Reference) (many : 2 ≤ references.length) :
    compose policy input references = ⟨.ok (template input (sortByStart references)), []⟩ := by
  rw [← (sort_by_start_perm references).length_eq] at many
  rw [compose]
  match sortByStart references, many with
  | first :: second :: rest, _ => rfl

theorem compose_laid (policy : Policy) (input : Text) (layout : Layout) (references : List Reference)
    (lays : layout.Lays 0 references) (many : 2 ≤ references.length) :
    compose policy input references = ⟨.ok (template input references), []⟩ := by
  rw [compose_several policy input references many, sort_sorted _ (lays_sorted layout 0 _ lays)]

theorem chain_path (reference : Reference) : (Expression.path? (chain reference)).isSome = true := by
  rw [chain, Expression.path_access _ _ _ rfl]
  rfl

theorem lone_chain (policy : Policy) (input : Text) (reference : Reference) (expression : Expression)
    (made : (lone policy input reference).result = .ok expression) : chain reference = expression := by
  cases text : remainder input reference with
  | nil => simpa [lone, loneWith, text] using made
  | cons c rest =>
      cases policy with
      | error => simp [lone, loneWith, text] at made
      | ignore | warn => simpa [lone, loneWith, text] using made

theorem composed_template (policy : Policy) (input : Text) (references : List Reference) (elements : List Quasi)
    (expressions : List Expression)
    (composed : (compose policy input references).result = .ok (.template elements expressions)) :
    2 ≤ references.length := by
  rw [← (sort_by_start_perm references).length_eq]
  rw [compose] at composed
  match sorted : sortByStart references with
  | [] => simp [sorted] at composed
  | [reference] =>
      have path := chain_path reference
      rw [sorted] at composed
      rw [lone_chain policy input reference _ composed] at path
      simp [Expression.path?] at path
  | first :: second :: rest => simp

theorem between_laid (input : Text) (layout : Layout) (done : Text) (first : Reference) (references : List Reference)
    (split : input = done ++ layout.whole) (stop : first.stop = bytes done)
    (lays : layout.Lays (bytes done) references) :
    ((first :: references).zip references).map (fun pair => between pair.1.stop pair.2.start input) =
      layout.leading := by
  induction layout generalizing done first references with
  | final gap =>
      rw [lays_empty gap _ references lays]
      rfl
  | spot gap word rest ih =>
      obtain ⟨reference, later, rfl, start, _, ends, others⟩ := lays_cons gap word rest done references lays
      have whole : input = (done ++ (gap ++ word)) ++ rest.whole := by simp [split, Layout.whole]
      have here : between (bytes done) (bytes done + bytes gap) input = gap := by
        rw [split, Layout.whole, between_bytes]
      rw [List.zip_cons_cons, List.map_cons, ih _ reference later whole ends others, Layout.leading, stop, start, here]

theorem later_quasis_cons (marker : Marker) (gap : Text) (gaps : List Text) (filled : gaps ≠ []) :
    laterQuasis marker (gap :: gaps) = ⟨marker.withoutBoth gap, false⟩ :: laterQuasis marker gaps := by
  cases gaps with
  | nil => exact absurd rfl filled
  | cons next rest => rfl

theorem quasis_cons (marker : Marker) (gap : Text) (gaps : List Text) (filled : gaps ≠ []) :
    quasis marker (gap :: gaps) = ⟨marker.withoutOpening gap, false⟩ :: laterQuasis marker gaps := by
  cases gaps with
  | nil => exact absurd rfl filled
  | cons next rest => rfl

theorem template_laid (input : Text) (layout : Layout) (references : List Reference) (whole : layout.whole = input)
    (lays : layout.Lays 0 references) :
    template input references = .template (quasis (Marker.ofText input) layout.gaps) (references.map chain) := by
  have same := gaps_laid input layout [] references (by simp [whole]) lays
  rw [template, ← same]
  rfl

theorem gap_opened (marker : Marker) (inner gap word : Text) (rest : Layout)
    (whole : (Layout.spot gap word rest).whole = marker.opening ++ inner)
    (mentioned : (Layout.spot gap word rest).spots = mentions (Layout.spot gap word rest).whole) :
    ∃ front, gap = marker.opening ++ front := by
  have member : word ∈ mentions (Layout.spot gap word rest).whole := by
    rw [← mentioned]
    exact List.mem_cons_self
  obtain ⟨filled, _, undelimited⟩ := mention_facts _ word member
  have apart : ∀ c ∈ marker.opening, c ∉ word := by
    intro c mark inside
    simpa [marker.opening_delimits c mark] using undelimited c inside
  exact mark_in_front _ inner gap word rest.whole filled apart whole.symm

theorem enclosed_layout (marker : Marker) (inner : Text) (layout : Layout)
    (whole : layout.whole = marker.opening ++ (inner ++ marker.closing)) (spotted : layout.spots ≠ [])
    (mentioned : layout.spots = mentions layout.whole) (ending : marker.closing.length ≤ layout.ending.length) :
    ∃ (front word : Text) (stem : Layout), layout = .spot (marker.opening ++ front) word
      (stem.append (.final marker.closing)) ∧ inner = front ++ (word ++ stem.whole) := by
  cases layout with
  | final gap => exact absurd rfl spotted
  | spot gap word rest =>
      obtain ⟨front, rfl⟩ := gap_opened marker _ gap word rest whole mentioned
      rw [Layout.whole, List.append_assoc] at whole
      obtain ⟨stem, cut, stemWhole⟩ := Layout.split_ending (.spot front word rest) inner marker.closing
        (List.append_cancel_left whole) ending
      cases stem with
      | final last => cases cut
      | spot first other stem =>
          obtain ⟨rfl, rfl, rfl⟩ := Layout.spot.inj cut
          exact ⟨front, word, stem, rfl, stemWhole.symm⟩

theorem convert_found (resolver : Resolver) (input : Text) (references : List Reference)
    (found : resolver.references input = .ok references) :
    resolver.convert input = compose resolver.settings.policy input references := by
  rw [Resolver.convert, found]

end Interpolation
