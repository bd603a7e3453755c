import Interpolation.Files.Path
import Interpolation.Proofs.Occurrence

set_option autoImplicit false

namespace Interpolation

open Text

theorem split_unmarked (mark : Char) (piece : Text) (absent : mark ∉ piece) : split mark piece = [piece] := by
  induction piece with
  | nil => rfl
  | cons c rest ih =>
      obtain ⟨different, others⟩ := not_or.mp (mt List.mem_cons.mpr absent)
      rw [split, if_neg (Ne.symm different), ih others, joinHead]

theorem split_marked (mark : Char) (piece rest : Text) (absent : mark ∉ piece) :
    split mark (piece ++ mark :: rest) = piece :: split mark rest := by
  induction piece with
  | nil => simp [split]
  | cons c more ih =>
      obtain ⟨different, others⟩ := not_or.mp (mt List.mem_cons.mpr absent)
      rw [List.cons_append, split, if_neg (Ne.symm different), ih others, joinHead]

theorem split_join (mark : Char) (pieces : List Text) (filled : pieces ≠ [])
    (absent : ∀ piece ∈ pieces, mark ∉ piece) : split mark (join mark pieces) = pieces := by
  induction pieces with
  | nil => exact absurd rfl filled
  | cons piece rest ih =>
      obtain ⟨here, others⟩ := List.forall_mem_cons.mp absent
      cases rest with
      | nil => exact split_unmarked mark piece here
      | cons next more => rw [join, split_marked mark piece _ here, ih (by simp) others]

theorem split_whole (mark : Char) (t piece : Text) (member : piece ∈ split mark t) : mark ∉ piece := by
  induction t generalizing piece with
  | nil => simp_all [split]
  | cons c rest ih =>
      by_cases same : c = mark
      · rw [split, if_pos same] at member
        rcases List.mem_cons.mp member with rfl | later
        · simp
        · exact ih piece later
      · rw [split, if_neg same] at member
        cases pieces : split mark rest with
        | nil => exact absurd pieces (split_nonempty mark rest)
        | cons first more =>
            rw [pieces] at member ih
            rcases List.mem_cons.mp member with rfl | later
            · simp [Ne.symm same, ih first List.mem_cons_self]
            · exact ih piece (List.mem_cons_of_mem _ later)

namespace Path

structure Normal (name : Text) : Prop where
  filled : name ≠ []
  whole : '/' ∉ name
  here : name ≠ ['.']
  above : name ≠ ['.', '.']

def ofNames (names : List Text) : Path := join '/' names

def lead (directories : List Text) : Path := join '/' (directories ++ [[]])

theorem names_last (directories : List Text) (name : Text) :
    ofNames (directories ++ [name]) = lead directories ++ name := by
  rw [ofNames, lead]
  induction directories with
  | nil => rfl
  | cons directory rest ih =>
      cases rest with
      | nil => simp [join]
      | cons next more => simpa [join] using ih

theorem names_whole (names : List Text) (normal : ∀ name ∈ names, Normal name) : ∀ name ∈ names, '/' ∉ name :=
  fun name member => (normal name member).whole

theorem trimmed_named (name : Text) (earlier : List Text) (filled : name ≠ []) (here : name ≠ ['.']) :
    trimmed (name :: earlier) = name :: earlier := by
  cases earlier <;> simp [trimmed, filled, here]

theorem reversed_names (directories : List Text) (name : Text) (filled : name ≠ []) (here : name ≠ ['.'])
    (whole : ∀ piece ∈ directories ++ [name], '/' ∉ piece) :
    reversed (ofNames (directories ++ [name])) = name :: directories.reverse := by
  rw [reversed, ofNames, split_join '/' _ (by simp) whole, List.reverse_append]
  exact trimmed_named name directories.reverse filled here

theorem directory_names (directories : List Text) (name : Text)
    (normal : ∀ piece ∈ directories ++ [name], Normal piece) :
    directory? (ofNames (directories ++ [name])) = if directories = [] then none else some (ofNames directories) := by
  have last := normal name (by simp)
  rw [directory?, reversed_names directories name last.filled last.here (names_whole _ normal)]
  rcases List.eq_nil_or_concat directories with rfl | ⟨above, directory, rfl⟩
  · rfl
  · have lowest := normal directory (by simp)
    rw [List.concat_eq_append, List.reverse_append, List.reverse_singleton, List.singleton_append]
    simp only [trimmed_named directory above.reverse lowest.filled lowest.here]
    simp [lowest.filled, ofNames]

theorem name_names (directories : List Text) (name : Text) (filled : name ≠ []) (here : name ≠ ['.'])
    (whole : ∀ piece ∈ directories ++ [name], '/' ∉ piece) :
    name? (lead directories ++ name) = if name = ['.', '.'] then none else some (lead directories, name) := by
  rw [← names_last, name?, reversed_names directories name filled here whole]
  simp [filled, here, lead]

theorem cut_extension_cases (name : Text) :
    cutExtension name = (name, none) ∨
      ∃ stem extension, stem ≠ [] ∧ name = stem ++ '.' :: extension ∧ cutExtension name = (stem, some extension) := by
  rw [cutExtension]
  cases found : cutLast? ['.'] name with
  | none => exact .inl rfl
  | some cut =>
      obtain ⟨stem, extension⟩ := cut
      cases stem with
      | nil => exact .inl rfl
      | cons c stem => exact .inr ⟨c :: stem, extension, by simp, by simpa using cut_last_joins _ _ _ _ found, rfl⟩

theorem cut_extension_dot (stem : Text) (filled : stem ≠ []) : cutExtension (stem ++ ['.']) = (stem, some []) := by
  have last : cutLast? ['.'] (stem ++ ['.']) = some (stem, []) := by
    refine (cut_last_some_iff _ _ _ _ (by simp)).mpr ⟨rfl, ?_⟩
    intro a b other
    have size := congrArg List.length other
    simp only [List.length_append, List.length_singleton] at size
    omega
  rw [cutExtension, last]
  cases stem with
  | nil => exact absurd rfl filled
  | cons c rest => rfl

-- A name with another extension. Two dots and an extension leave the two dots, which lead one step up.
def exchanged (extension name : Text) : Text :=
  if (cutExtension name).1 = ['.'] then ['.', '.'] else (cutExtension name).1 ++ '.' :: extension

theorem exchanged_normal (extension name : Text) (normal : Normal name) (whole : '/' ∉ extension) :
    exchanged extension name = ['.', '.'] ∨ Normal (exchanged extension name) := by
  have stemmed : (cutExtension name).1 ≠ [] ∧ '/' ∉ (cutExtension name).1 := by
    rcases cut_extension_cases name with plain | ⟨stem, old, filled, rfl, cut⟩
    · rw [plain]
      exact ⟨normal.filled, normal.whole⟩
    · rw [cut]
      exact ⟨filled, fun inside => normal.whole (List.mem_append_left _ inside)⟩
  obtain ⟨filled, apart⟩ := stemmed
  rw [exchanged]
  generalize (cutExtension name).1 = stem at *
  by_cases dots : stem = ['.']
  · exact .inl (if_pos dots)
  · rw [if_neg dots]
    refine .inr ⟨by simp, by simp [apart, whole], by simp [List.append_eq_singleton_iff, filled], ?_⟩
    intro same
    rcases List.append_eq_cons_iff.mp same with ⟨rfl, _⟩ | ⟨rest, rfl, short⟩
    · exact filled rfl
    · obtain rfl : rest = [] := by
        have size := congrArg List.length short
        simp only [List.length_append, List.length_cons, List.length_nil] at size
        exact List.eq_nil_of_length_eq_zero (by omega)
      exact dots rfl

theorem with_extension_names (extension : Text) (directories : List Text) (name : Text)
    (normal : ∀ piece ∈ directories ++ [name], Normal piece) :
    withExtension extension (ofNames (directories ++ [name])) =
      ofNames (directories ++ [exchanged extension name]) := by
  have last := normal name (by simp)
  have whole := names_whole _ normal
  have named := name_names directories name last.filled last.here whole
  rw [if_neg last.above] at named
  rw [withExtension, withoutExtension, names_last, names_last, named, exchanged]
  rcases cut_extension_cases name with plain | ⟨stem, old, filled, rfl, cut⟩
  · have bare : dropEnd 0 (lead directories ++ name) = lead directories ++ name := List.take_length
    simp only [plain, Option.getD_none, List.length_nil, bare, named, if_neg last.here, List.append_assoc]
  · have bare : dropEnd old.length (lead directories ++ (stem ++ '.' :: old)) =
        lead directories ++ (stem ++ ['.']) := by
      have split : lead directories ++ (stem ++ '.' :: old) = (lead directories ++ (stem ++ ['.'])) ++ old := by simp
      rw [split, dropEnd, List.length_append, Nat.add_sub_cancel, List.take_left]
    have apart : ∀ piece ∈ directories ++ [stem ++ ['.']], '/' ∉ piece := by
      have front : '/' ∉ stem := fun inside => last.whole (List.mem_append_left _ inside)
      intro piece member
      rcases List.mem_append.mp member with above | here
      · exact whole piece (List.mem_append_left _ above)
      · obtain rfl := List.mem_singleton.mp here
        simp [front]
    have dotted := name_names directories (stem ++ ['.']) (by simp) (by simp [filled]) apart
    simp only [cut, Option.getD_some, bare, dotted]
    by_cases dots : stem = ['.']
    · simp [dots]
    · have other : ¬ stem ++ ['.'] = ['.', '.'] := by
        intro same
        have front : stem ++ ['.'] = ['.'] ++ ['.'] := same
        exact dots (List.append_cancel_right front)
      simp only [if_neg other, if_neg dots, cut_extension_dot stem filled, List.append_assoc]

def leads (piece : Text) : Bool := !(piece = [] || piece = ['.'])

def names (path : Path) : List Text := (split '/' path).filter leads

theorem normal_leads (pieces : List Text) (normal : ∀ piece ∈ pieces, Normal piece) : pieces.filter leads = pieces := by
  apply List.filter_eq_self.mpr
  intro piece member
  simp [leads, (normal piece member).filled, (normal piece member).here]

theorem trimmed_leads (pieces : List Text) : (trimmed pieces).filter leads = pieces.filter leads := by
  fun_induction trimmed pieces with
  | case1 => rfl
  | case2 first => rfl
  | case3 piece next earlier nowhere ih =>
      have stays : ¬ leads piece = true := by rw [leads, nowhere]; simp
      rw [ih, List.filter_cons_of_neg stays]
  | case4 piece next earlier _ => rfl

theorem trimmed_suffix (pieces : List Text) : trimmed pieces <:+ pieces := by
  fun_induction trimmed pieces with
  | case1 => exact List.suffix_rfl
  | case2 first => exact List.suffix_rfl
  | case3 piece next earlier nowhere ih => exact ih.trans (List.suffix_cons piece _)
  | case4 piece next earlier _ => exact List.suffix_rfl

theorem trimmed_filled (pieces : List Text) (filled : pieces ≠ []) : trimmed pieces ≠ [] := by
  fun_induction trimmed pieces with
  | case1 => exact filled
  | case2 first => exact filled
  | case3 piece next earlier nowhere ih => exact ih (by simp)
  | case4 piece next earlier _ => exact filled

theorem trimmed_head (pieces : List Text) (first next : Text) (earlier : List Text)
    (rest : trimmed pieces = first :: next :: earlier) : leads first = true := by
  fun_induction trimmed pieces with
  | case1 => cases rest
  | case2 only => cases rest
  | case3 piece other more nowhere ih => exact ih rest
  | case4 piece other more somewhere =>
      cases rest
      simpa [leads] using somewhere

theorem directory_pieces (path directory : Path) (found : directory? path = some directory) :
    ∃ last earlier, reversed path = last :: earlier ∧ leads last = true ∧
      (∀ piece ∈ trimmed earlier, piece ∈ split '/' path) ∧
      (split '/' directory = (trimmed earlier).reverse ∨
        trimmed earlier = [[]] ∧ split '/' directory = [[], []]) := by
  rw [directory?] at found
  cases pieces : reversed path with
  | nil => simp [pieces] at found
  | cons last earlier =>
      cases earlier with
      | nil => simp [pieces] at found
      | cons next more =>
          have leading := trimmed_head _ last next more pieces
          have higher : ∀ piece ∈ trimmed (next :: more), piece ∈ split '/' path := by
            intro piece member
            have there := List.mem_cons_of_mem last ((trimmed_suffix (next :: more)).subset member)
            rw [← pieces, reversed] at there
            exact List.mem_reverse.mp ((trimmed_suffix _).subset there)
          refine ⟨last, next :: more, rfl, leading, higher, ?_⟩
          simp only [pieces] at found
          split at found
          case h_1 root =>
            cases found
            exact .inr ⟨root, rfl⟩
          case h_2 =>
            cases found
            have filled : (trimmed (next :: more)).reverse ≠ [] := by
              simpa using trimmed_filled (next :: more) (by simp)
            refine .inl (split_join '/' _ filled ?_)
            intro piece member
            exact split_whole '/' path piece (higher piece (List.mem_reverse.mp member))

theorem directory_leads (path directory : Path) (found : directory? path = some directory) :
    names directory = (names path).dropLast ∧ (['.', '.'] ∉ split '/' path → ['.', '.'] ∉ split '/' directory) := by
  obtain ⟨last, earlier, pieces, leading, higher, cut⟩ := directory_pieces path directory found
  have above : (trimmed earlier).filter leads = (names path).dropLast.reverse := by
    have front : (reversed path).filter leads = (names path).reverse := by
      rw [reversed, trimmed_leads, List.filter_reverse, names]
    rw [pieces, List.filter_cons_of_pos leading] at front
    rw [trimmed_leads, ← List.tail_reverse, ← front]
    rfl
  rw [names]
  rcases cut with parts | ⟨root, parts⟩
  · rw [parts, List.filter_reverse, above, List.reverse_reverse]
    exact ⟨rfl, fun descends member => descends (higher _ (List.mem_reverse.mp member))⟩
  · rw [root] at above
    rw [parts]
    exact ⟨by simpa [leads] using congrArg List.reverse above, by simp⟩

end Path

end Interpolation
