import Interpolation.Proofs.Gaps
import Interpolation.Proofs.Trimming

set_option autoImplicit false

namespace Interpolation

open Text

structure Part where
  expression : Text
  literal : Text
deriving DecidableEq, Repr

def written (opening closing : Text) : List Part → Text
  | [] => []
  | part :: rest => opening ++ (part.expression ++ (closing ++ (part.literal ++ written opening closing rest)))

def isDotted (atom : Text) : Bool := contains ['.'] atom

def dottedAtoms (t : Text) : List Text := (atoms t).filter isDotted

def dottedLayout (t : Text) : Layout := (pieceLayout t).keep isDotted

def partLayout (opening closing : Text) : List Part → Layout
  | [] => .final []
  | part :: rest =>
      let later := (partLayout opening closing rest).behind (closing ++ part.literal)
      ((dottedLayout part.expression).append later).behind opening

structure IsPlain (t : Text) : Prop where
  unmarked : Marker.Unmarked t
  colonless : ':' ∉ t
  splatless : ¬ splat <:+: t

-- A part whose expression has dotted atoms, all of them known addresses, and whose literal has none.
structure Part.Separable (catalog : Catalog) (part : Part) : Prop where
  expression : IsPlain part.expression
  literal : IsPlain part.literal
  dotless : '.' ∉ part.literal
  mentioning : dottedAtoms part.expression ≠ []
  known : ∀ atom ∈ dottedAtoms part.expression, isAddress atom = true ∧ (catalog.find? (segments atom)).isSome = true

theorem is_plain_iff (t : Text) :
    IsPlain t ↔ ('}' ∉ t ∧ contains Marker.single.opening t = false) ∧ ':' ∉ t ∧ contains splat t = false := by
  rw [← Bool.not_eq_true, ← Bool.not_eq_true, contains_iff _ t (by decide), contains_iff splat t (by decide)]
  constructor
  · rintro ⟨⟨braceless, unopened⟩, colonless, splatless⟩
    exact ⟨⟨braceless, unopened⟩, colonless, splatless⟩
  · rintro ⟨⟨braceless, unopened⟩, colonless, splatless⟩
    exact ⟨⟨braceless, unopened⟩, colonless, splatless⟩

instance (t : Text) : Decidable (IsPlain t) := decidable_of_iff _ (is_plain_iff t).symm

instance (catalog : Catalog) (part : Part) : Decidable (part.Separable catalog) :=
  decidable_of_iff (IsPlain part.expression ∧ IsPlain part.literal ∧ '.' ∉ part.literal ∧
    dottedAtoms part.expression ≠ [] ∧ ∀ atom ∈ dottedAtoms part.expression,
      isAddress atom = true ∧ (catalog.find? (segments atom)).isSome = true)
    ⟨fun separable => ⟨separable.1, separable.2.1, separable.2.2.1, separable.2.2.2.1, separable.2.2.2.2⟩,
      fun separable => ⟨separable.expression, separable.literal, separable.dotless, separable.mentioning,
        separable.known⟩⟩

theorem dotted_layout_whole (t : Text) : (dottedLayout t).whole = t := by
  rw [dottedLayout, Layout.whole_keep, piece_layout_whole]

theorem dotted_layout_spots (t : Text) : (dottedLayout t).spots = dottedAtoms t := by
  rw [dottedLayout, Layout.spots_keep, piece_layout_spots, dottedAtoms, atoms, List.filter_filter]
  apply List.filter_congr
  intro piece _
  cases piece <;> simp [isDotted, contains, cut?]

theorem dotted_layout_avoids_dot (t : Text) : (dottedLayout t).Avoids '.' := by
  refine Layout.avoids_keep '.' isDotted _ (piece_layout_avoids_dot t) ?_
  intro piece _ plain dot
  rw [isDotted, (contains_char_iff '.' piece).mpr dot] at plain
  cases plain

theorem dotted_atoms_dotless (t : Text) (dotless : '.' ∉ t) : dottedAtoms t = [] := by
  rw [← dotted_layout_spots, dottedLayout, Layout.spots_keep, List.filter_eq_nil_iff]
  intro piece member dotted
  have inside := Layout.spot_infix _ piece member
  rw [piece_layout_whole] at inside
  exact dotless (inside.subset ((contains_char_iff '.' piece).mp dotted))

theorem dotted_atoms_delimiter (a b : Text) (d : Char) (delimits : isDelimiter d = true) :
    dottedAtoms (a ++ d :: b) = dottedAtoms a ++ dottedAtoms b := by
  simp only [dottedAtoms, atoms_append_delimiter a b d delimits, List.filter_append]

theorem dotted_atoms_mark (mark a b : Text) (filled : mark ≠ []) (delimits : ∀ d ∈ mark, isDelimiter d = true) :
    dottedAtoms (a ++ (mark ++ b)) = dottedAtoms a ++ dottedAtoms b := by
  induction mark generalizing a with
  | nil => exact absurd rfl filled
  | cons d hooks ih =>
      obtain ⟨here, others⟩ := List.forall_mem_cons.mp delimits
      rw [List.cons_append, dotted_atoms_delimiter a _ d here]
      cases hooks with
      | nil => rfl
      | cons e hooks =>
          have rest := ih [] (by simp) others
          exact congrArg (dottedAtoms a ++ ·) rest

theorem dotted_atoms_opening (marker : Marker) (a b : Text) :
    dottedAtoms (a ++ (marker.opening ++ b)) = dottedAtoms a ++ dottedAtoms b :=
  dotted_atoms_mark _ a b marker.opening_filled marker.opening_delimits

theorem dotted_atoms_closing (marker : Marker) (a b : Text) :
    dottedAtoms (a ++ (marker.closing ++ b)) = dottedAtoms a ++ dottedAtoms b :=
  dotted_atoms_mark _ a b marker.closing_filled marker.closing_delimits

theorem addresses_dotted (t : Text) (all : ∀ atom ∈ dottedAtoms t, isAddress atom = true) :
    addresses t = dottedAtoms t := by
  apply List.filter_congr
  intro atom member
  by_cases dotted : isDotted atom = true
  · rw [dotted, all atom (List.mem_filter.mpr ⟨member, dotted⟩)]
  · have plain : contains ['.'] atom = false := by simpa [isDotted] using dotted
    simp [isAddress, isDotted, plain]

theorem part_split (catalog : Catalog) (part : Part) (separable : part.Separable catalog) :
    ∃ gap word rest, dottedLayout part.expression = .spot gap word rest ∧ Marker.Unmarked gap ∧
      Marker.Unmarked rest.whole := by
  have spots := dotted_layout_spots part.expression
  have whole := dotted_layout_whole part.expression
  cases layout : dottedLayout part.expression with
  | final gap =>
      rw [layout] at spots
      exact absurd spots.symm separable.mentioning
  | spot gap word rest =>
      have unmarked := separable.expression.unmarked
      rw [layout, Layout.whole] at whole
      exact ⟨gap, word, rest, rfl, Marker.unmarked_infix gap _ ⟨[], _, whole⟩ unmarked,
        Marker.unmarked_infix rest.whole _ ⟨gap ++ word, [], by simpa using whole⟩ unmarked⟩

theorem part_layout_whole (opening closing : Text) (parts : List Part) :
    (partLayout opening closing parts).whole = written opening closing parts := by
  induction parts with
  | nil => rfl
  | cons part rest ih => simp [partLayout, written, dotted_layout_whole, ih]

theorem part_layout_spots (opening closing : Text) (parts : List Part) :
    (partLayout opening closing parts).spots = parts.flatMap fun part => dottedAtoms part.expression := by
  induction parts with
  | nil => rfl
  | cons part rest ih => simp [partLayout, dotted_layout_spots, ih]

theorem part_layout_avoids_dot (marker : Marker) (parts : List Part) (dotless : ∀ part ∈ parts, '.' ∉ part.literal) :
    (partLayout marker.opening marker.closing parts).Avoids '.' := by
  have marks : '.' ∉ marker.opening ∧ '.' ∉ marker.closing := by cases marker <;> decide
  induction parts with
  | nil => simp [partLayout, Layout.Avoids]
  | cons part rest ih =>
      obtain ⟨here, others⟩ := List.forall_mem_cons.mp dotless
      have behind := Layout.avoids_behind '.' _ _ (List.not_mem_append marks.2 here) (ih others)
      exact Layout.avoids_behind '.' _ _ marks.1
        (Layout.avoids_append '.' _ _ (dotted_layout_avoids_dot part.expression) behind)

theorem splat_seam (a b : Text) (before : ¬ splat <:+: a) (after : ¬ splat <:+: b) (apart : b.head? ≠ some '*') :
    ¬ splat <:+: a ++ b := by
  intro present
  rcases List.infix_append_iff_ne_nil.mp present with inside | inside | ⟨left, right, leftFilled, filled, eq, _, tail⟩
  · exact before inside
  · exact after inside
  · obtain ⟨c, left, rfl⟩ := List.exists_cons_of_ne_nil leftFilled
    obtain ⟨d, right, rfl⟩ := List.exists_cons_of_ne_nil filled
    have size := congrArg List.length eq
    simp only [splat, List.length_append, List.length_cons, List.length_nil] at size
    obtain rfl : left = [] := List.eq_nil_of_length_eq_zero (by omega)
    obtain ⟨rest, rfl⟩ := tail
    simp only [splat, List.cons_append, List.nil_append, List.cons.injEq] at eq
    exact apart (by simp [← eq.2.1])

theorem written_splatless (catalog : Catalog) (marker : Marker) (parts : List Part)
    (separable : ∀ part ∈ parts, part.Separable catalog) :
    ¬ splat <:+: written marker.opening marker.closing parts := by
  have marks : '.' ∉ marker.opening ∧ '.' ∉ marker.closing := by cases marker <;> decide
  induction parts with
  | nil => simp [written, splat]
  | cons part rest ih =>
      obtain ⟨here, others⟩ := List.forall_mem_cons.mp separable
      have behind := mt (infix_behind '.' ['*'] _ _ here.dotless) (ih others)
      have closed := mt (infix_behind '.' ['*'] _ _ marks.2) behind
      have brace (t : Text) : (marker.closing ++ t).head? ≠ some '*' := by cases marker <;> simp [Marker.closing]
      exact mt (infix_behind '.' ['*'] _ _ marks.1) (splat_seam _ _ here.expression.splatless closed (brace _))

theorem written_colonless (catalog : Catalog) (marker : Marker) (parts : List Part)
    (separable : ∀ part ∈ parts, part.Separable catalog) :
    ':' ∉ written marker.opening marker.closing parts := by
  have marks : ':' ∉ marker.opening ∧ ':' ∉ marker.closing := by cases marker <;> decide
  induction parts with
  | nil => simp [written]
  | cons part rest ih =>
      obtain ⟨here, others⟩ := List.forall_mem_cons.mp separable
      simp [written, marks, here.expression.colonless, here.literal.colonless, ih others]

theorem written_marker (catalog : Catalog) (marker : Marker) (part : Part) (rest : List Part)
    (separable : part.Separable catalog) (unbraced : part.expression.head? ≠ some '{') :
    isInterpolated (written marker.opening marker.closing (part :: rest)) = true ∧
      Marker.ofText (written marker.opening marker.closing (part :: rest)) = marker := by
  refine ⟨marker.opened_interpolated _, marker.opened_marker _ ?_⟩
  cases start : part.expression with
  | nil => exact absurd (by rw [start]; rfl) separable.mentioning
  | cons c expression => simpa [start] using unbraced

theorem dotted_atoms_tail (marker : Marker) (a literal : Text) (dotless : '.' ∉ literal) :
    dottedAtoms (a ++ dropEnd marker.closing.length (marker.closing ++ literal)) = dottedAtoms a := by
  have size : (marker.closing ++ literal).length - marker.closing.length = literal.length := by simp
  rw [dropEnd, size]
  cases literal with
  | nil => simp
  | cons c literal =>
      obtain ⟨closing, eq⟩ : ∃ closing, marker.closing = '}' :: closing ∧ '.' ∉ closing := by
        cases marker
        · exact ⟨[], rfl, by decide⟩
        · exact ⟨['}'], rfl, by decide⟩
      have rest : '.' ∉ (closing ++ c :: literal).take literal.length :=
        fun dot => List.not_mem_append eq.2 dotless (List.mem_of_mem_take dot)
      rw [eq.1, List.cons_append, List.length_cons, List.take_succ_cons,
        dotted_atoms_delimiter a _ '}' (by decide), dotted_atoms_dotless _ rest, List.append_nil]

theorem written_opened (marker : Marker) (part : Part) (rest : List Part) :
    ∃ inner, written marker.opening marker.closing (part :: rest) = marker.opening ++ inner ∧
      marker.closing.length ≤ inner.length := by
  refine ⟨_, rfl, ?_⟩
  simp only [List.length_append]
  omega

theorem dotted_atoms_written (marker : Marker) (part : Part) (rest : List Part)
    (dotless : ∀ other ∈ part :: rest, '.' ∉ other.literal) :
    dottedAtoms (dropEnd marker.closing.length (written marker.opening marker.closing (part :: rest))) =
      (part :: rest).flatMap fun other => dottedAtoms other.expression := by
  have opened (t : Text) : dottedAtoms (marker.opening ++ t) = dottedAtoms t := dotted_atoms_opening marker [] t
  induction rest generalizing part with
  | nil =>
      have here := dotless part List.mem_cons_self
      rw [written, written, List.append_nil, drop_end_append _ _ _ (by simp; omega), opened,
        drop_end_append _ _ _ (by simp), dotted_atoms_tail marker _ _ here]
      simp
  | cons next rest ih =>
      obtain ⟨here, others⟩ := List.forall_mem_cons.mp dotless
      have later := ih next others
      obtain ⟨inner, eq, long⟩ := written_opened marker next rest
      rw [eq, drop_end_append _ _ _ long, opened] at later
      have front : written marker.opening marker.closing (part :: next :: rest) =
          (marker.opening ++ (part.expression ++ (marker.closing ++ (part.literal ++ marker.opening)))) ++ inner := by
        rw [written, eq]
        simp
      rw [front, drop_end_append _ _ _ long, List.flatMap_cons, ← later]
      simp only [List.append_assoc, opened, dotted_atoms_closing, dotted_atoms_opening,
        dotted_atoms_dotless _ here, List.nil_append]

theorem mentions_written (catalog : Catalog) (marker : Marker) (part : Part) (rest : List Part)
    (separable : ∀ other ∈ part :: rest, other.Separable catalog) (unbraced : part.expression.head? ≠ some '{') :
    mentions (written marker.opening marker.closing (part :: rest)) =
      (part :: rest).flatMap fun other => dottedAtoms other.expression := by
  obtain ⟨interpolated, same⟩ := written_marker catalog marker part rest (separable part List.mem_cons_self) unbraced
  have atoms := dotted_atoms_written marker part rest fun other member => (separable other member).dotless
  have colonless := written_colonless catalog marker (part :: rest) separable
  obtain ⟨inner, eq, long⟩ := written_opened marker part rest
  have text : enclosed (written marker.opening marker.closing (part :: rest)) =
      dropEnd marker.closing.length inner := by
    have slice := congrArg Slice.text (enclosed_slice_eq _ inner (by rw [same, eq]))
    rwa [same] at slice
  have narrow : ':' ∉ dropEnd marker.closing.length inner := by
    intro colon
    rw [eq] at colonless
    exact colonless (List.mem_append_right _ (List.mem_of_mem_take colon))
  rw [eq, drop_end_append _ _ _ long, ← List.nil_append (marker.opening ++ _), dotted_atoms_opening] at atoms
  rw [mentions, text, collection_colonless _ narrow, addresses_dotted _ ?_]
  · exact atoms
  · intro atom member
    have mentioned : atom ∈ (part :: rest).flatMap fun other => dottedAtoms other.expression := atoms ▸ member
    obtain ⟨other, present, inside⟩ := List.mem_flatMap.mp mentioned
    exact ((separable other present).known atom inside).1

end Interpolation
