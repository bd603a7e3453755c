import Interpolation.Proofs.Scanning

set_option autoImplicit false

namespace Interpolation

open Text

def separators : List Text := ['&', '&'] :: ['|', '|'] :: delimiters.map fun d => [d]

def IsSeparation (gap : Text) : Prop :=
  ∃ marks : List Text, (∀ mark ∈ marks, mark ∈ separators) ∧ gap = marks.flatten

def atomLayout (t : Text) : Layout := (pieceLayout t).keep fun piece => !piece.isEmpty

def spaced : Text → Text
  | [] => []
  | '&' :: '&' :: rest => ' ' :: spaced rest
  | '|' :: '|' :: rest => ' ' :: spaced rest
  | c :: rest => c :: spaced rest

theorem atom_layout_whole (t : Text) : (atomLayout t).whole = t := by
  rw [atomLayout, Layout.whole_keep, piece_layout_whole]

theorem atom_layout_spots (t : Text) : (atomLayout t).spots = atoms t := by
  rw [atomLayout, Layout.spots_keep, piece_layout_spots, atoms]

theorem separation_empty : IsSeparation [] := ⟨[], by simp, rfl⟩

theorem separation_mark (mark : Text) (separates : mark ∈ separators) : IsSeparation mark :=
  ⟨[mark], by simpa using separates, by simp⟩

theorem separation_append (a b : Text) (left : IsSeparation a) (right : IsSeparation b) : IsSeparation (a ++ b) := by
  obtain ⟨front, known, rfl⟩ := left
  obtain ⟨back, others, rfl⟩ := right
  refine ⟨front ++ back, ?_, by simp⟩
  intro mark member
  exact (List.mem_append.mp member).elim (known mark) (others mark)

theorem delimiter_separates (d : Char) (delimits : isDelimiter d = true) : [d] ∈ separators := by
  have known : d ∈ delimiters := List.contains_iff_mem.mp delimits
  exact List.mem_cons_of_mem _ (List.mem_cons_of_mem _ (List.mem_map_of_mem known))

theorem separator_filled (mark : Text) (separates : mark ∈ separators) : mark ≠ [] := by
  intro empty
  simp [separators, empty] at separates

theorem scan_gaps (t : Text) :
    (∀ gap ∈ (scan t).2.leading, gap ∈ separators) ∧ (scan t).2.ending = [] := by
  fun_induction scan t with
  | case1 => exact ⟨by simp [Layout.leading], rfl⟩
  | case2 rest ih => exact ⟨List.forall_mem_cons.mpr ⟨by simp [separators], ih.1⟩, ih.2⟩
  | case3 rest ih => exact ⟨List.forall_mem_cons.mpr ⟨by simp [separators], ih.1⟩, ih.2⟩
  | case4 c rest _ _ delimits ih =>
      exact ⟨List.forall_mem_cons.mpr ⟨delimiter_separates c delimits, ih.1⟩, ih.2⟩
  | case5 c rest _ _ plain ih => exact ih

theorem atom_layout_separated (t : Text) : ∀ gap ∈ (atomLayout t).gaps, IsSeparation gap := by
  obtain ⟨between, ending⟩ := scan_gaps t
  apply Layout.gaps_keep IsSeparation separation_append
  · intro gap member
    rcases List.mem_cons.mp member with rfl | later
    · exact separation_empty
    · rw [Layout.gaps_leading, ending] at later
      rcases List.mem_append.mp later with inner | last
      · exact separation_mark gap (between gap inner)
      · rw [List.mem_singleton.mp last]
        exact separation_empty
  · intro piece _ dropped
    have empty : piece = [] := by simpa using dropped
    rw [empty]
    exact separation_empty

theorem atom_layout_filled (t : Text) : ∀ gap ∈ (atomLayout t).leading.tail, gap ≠ [] := by
  have filled : ∀ gap ∈ (scan t).2.leading, gap ≠ [] :=
    fun gap member => separator_filled gap ((scan_gaps t).1 gap member)
  have kept := Layout.leading_keep_filled (fun piece => !piece.isEmpty) (scan t).2 filled
  rw [atomLayout, pieceLayout, Layout.keep]
  split
  · exact kept
  · exact fun gap member => Layout.leading_behind_filled _ _ kept gap (List.mem_of_mem_tail member)

theorem piece_unoperated (t piece : Text) (member : piece ∈ pieces t) (c : Char) (known : c = '&' ∨ c = '|') :
    ¬ [c, c] <:+: piece := by
  refine pieces_each (fun piece => ¬ [c, c] <:+: piece) (by simp) ?_ t piece member
  intro d rest _ noAmpersands noBars absent inside
  rcases List.infix_cons_iff.mp inside with front | later
  · obtain ⟨rfl, tail, next⟩ := List.cons_prefix_cons.mp front
    have doubled : rest = c :: (tail ++ (scan rest).2.whole) := by
      have whole := scan_whole rest
      rw [← next] at whole
      simpa using whole.symm
    rcases known with rfl | rfl
    · exact noAmpersands _ rfl doubled
    · exact noBars _ rfl doubled
  · exact absent later

theorem piece_unseparated (t piece : Text) (member : piece ∈ pieces t) :
    ∀ mark ∈ separators, ¬ mark <:+: piece := by
  intro mark separates inside
  simp only [separators, List.mem_cons, List.mem_map] at separates
  rcases separates with rfl | rfl | ⟨d, delimits, rfl⟩
  · exact piece_unoperated t piece member '&' (.inl rfl) inside
  · exact piece_unoperated t piece member '|' (.inr rfl) inside
  · have plain := piece_plain t piece member d (inside.subset List.mem_cons_self)
    rw [isDelimiter, List.contains_iff_mem.mpr delimits] at plain
    cases plain

theorem split_plain (c : Char) (rest : Text) (plain : isDelimiter c ≠ true) :
    (c :: rest).splitOnP isDelimiter = joinHead c (rest.splitOnP isDelimiter) := by
  rw [List.splitOnP_cons_eq_if_modifyHead, if_neg plain]
  cases cut : rest.splitOnP isDelimiter with
  | nil => exact absurd cut (List.splitOnP_ne_nil isDelimiter rest)
  | cons piece more => rfl

theorem split_delimiter (d : Char) (rest : Text) (delimits : isDelimiter d = true) :
    (d :: rest).splitOnP isDelimiter = [] :: rest.splitOnP isDelimiter := by
  rw [List.splitOnP_cons_eq_if_modifyHead, if_pos delimits]

theorem pieces_spaced (t : Text) : pieces t = (spaced t).splitOnP isDelimiter := by
  fun_induction pieces t with
  | case1 => rfl
  | case2 rest ih => rw [spaced, split_delimiter ' ' _ (by decide), ih]
  | case3 rest ih => rw [spaced, split_delimiter ' ' _ (by decide), ih]
  | case4 c rest noAmpersands noBars delimits ih =>
      rw [spaced, split_delimiter c _ delimits, ih]
      · exact noAmpersands
      · exact noBars
  | case5 c rest noAmpersands noBars plain ih =>
      rw [spaced, split_plain c _ plain, ih]
      · exact noAmpersands
      · exact noBars

/-- A text is its atoms with separators between them: two atoms have at least one between them, and no atom holds any.
The atoms are what is left when the operators, read from the left, become blanks and the text is split at its
delimiters. -/
theorem atoms_partition (t : Text) :
    (atomLayout t).whole = t ∧ (atomLayout t).spots = atoms t ∧
    (∀ gap ∈ (atomLayout t).gaps, IsSeparation gap) ∧
    (∀ gap ∈ (atomLayout t).leading.tail, gap ≠ []) ∧
    (∀ atom ∈ atoms t, atom ≠ [] ∧ ∀ mark ∈ separators, ¬ mark <:+: atom) ∧
    atoms t = ((spaced t).splitOnP isDelimiter).filter fun piece => !piece.isEmpty := by
  refine ⟨atom_layout_whole t, atom_layout_spots t, atom_layout_separated t, atom_layout_filled t, ?_, ?_⟩
  · intro atom member
    obtain ⟨piece, filled⟩ := List.mem_filter.mp member
    exact ⟨by simpa using filled, piece_unseparated t atom piece⟩
  · rw [atoms, pieces_spaced]

example : atomLayout "a &&&b||".toList =
    .spot [] ['a'] (.spot [' ', '&', '&'] ['&', 'b'] (.final ['|', '|'])) := by decide

theorem atoms_append (a t b : Text) (cut : pieces t = [] :: pieces b)
    (apart : ∀ operator ∈ ['&', '|'], a.getLast? = some operator → t.head? ≠ some operator) :
    atoms (a ++ t) = atoms a ++ atoms b := by
  simp only [atoms, pieces_append a t _ cut apart, List.filter_append]

/-- A separator keeps the atoms before it apart from those after it: a delimiter always, and an operator unless its
character already ends the text before it, where an operator could be read over the seam. -/
theorem atoms_across_separators (a b : Text) :
    (∀ d ∈ delimiters, atoms (a ++ d :: b) = atoms a ++ atoms b) ∧
    (a.getLast? ≠ some '&' → atoms (a ++ '&' :: '&' :: b) = atoms a ++ atoms b) ∧
    (a.getLast? ≠ some '|' → atoms (a ++ '|' :: '|' :: b) = atoms a ++ atoms b) := by
  refine ⟨?_, ?_, ?_⟩
  · intro d delimits
    exact atoms_append_delimiter a b d (List.contains_iff_mem.mpr delimits)
  · intro apart
    apply atoms_append a ('&' :: '&' :: b) b (by rw [pieces])
    simp [apart]
  · intro apart
    apply atoms_append a ('|' :: '|' :: b) b (by rw [pieces])
    simp [apart]

theorem atoms_across_separators_mixed :
    let a : Text := "max(var.é, x|".toList
    let b : Text := "y&".toList
    let c : Text := "&-z".toList
    a.getLast? ≠ some '&' ∧ b.getLast? ≠ some '|' ∧ '}' ∈ delimiters ∧
      atoms (a ++ '&' :: '&' :: b) = ["max".toList, "var.é".toList, "x|".toList, "y&".toList] ∧
      atoms (b ++ '|' :: '|' :: c) = ["y&".toList, "&".toList, "z".toList] ∧
      atoms (b ++ '}' :: c) = ["y&".toList, "&".toList, "z".toList] := by
  intro a b c
  have left : a.getLast? ≠ some '&' := by decide
  have right : b.getLast? ≠ some '|' := by decide
  have brace : '}' ∈ delimiters := by decide
  refine ⟨left, right, brace, ?_, ?_, ?_⟩
  · rw [(atoms_across_separators a b).2.1 left]
    decide
  · rw [(atoms_across_separators b c).2.2 right]
    decide
  · rw [(atoms_across_separators b c).1 '}' brace]
    decide

example : atoms ("x&".toList ++ '&' :: '&' :: ['y']) = [['x'], ['&', 'y']] := by decide

end Interpolation
