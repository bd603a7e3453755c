import Interpolation.Proofs.Words

set_option autoImplicit false

namespace Interpolation

open Text

structure LeastFrom (origin : Nat) (property : Nat → Prop) (position : Nat) : Prop where
  behind : origin ≤ position
  holds : property position
  least : ∀ other, origin ≤ other → property other → position ≤ other

-- A search in the rest of a text that cuts at the least place there cuts the whole text at its least place from the
-- end of the other part on.
theorem least_from_iff (done : Text) (search : Option (Text × Text)) (property inner : Nat → Prop)
    (shift : ∀ distance, property (bytes done + distance) ↔ inner distance)
    (found : ∀ left right, search = some (left, right) →
      inner (bytes left) ∧ ∀ other, inner other → bytes left ≤ other)
    (missing : search = none → ∀ distance, ¬ inner distance) (position : Nat) :
    LeastFrom (bytes done) property position ↔
      ∃ left right, search = some (left, right) ∧ bytes (done ++ left) = position := by
  constructor
  · intro least
    obtain ⟨distance, rfl⟩ := Nat.exists_eq_add_of_le least.behind
    have stands := (shift distance).mp least.holds
    cases here : search with
    | none => exact absurd stands (missing here distance)
    | some cut =>
        obtain ⟨known, first⟩ := found cut.1 cut.2 here
        have below := least.least _ (Nat.le_add_right _ _) ((shift (bytes cut.1)).mpr known)
        have above := first distance stands
        exact ⟨cut.1, cut.2, rfl, by rw [bytes_append]; omega⟩
  · intro cut
    obtain ⟨left, right, here, rfl⟩ := cut
    obtain ⟨stands, first⟩ := found left right here
    rw [bytes_append]
    refine ⟨Nat.le_add_right _ _, (shift (bytes left)).mpr stands, ?_⟩
    intro other behind known
    obtain ⟨distance, rfl⟩ := Nat.exists_eq_add_of_le behind
    exact Nat.add_le_add_left (first distance ((shift distance).mp known)) _

def StandsAt (word : Text) (before : Option Char) (position : Nat) (t : Text) : Prop :=
  ∃ left right, t = left ++ (word ++ right) ∧ bytes left = position ∧ Alone before left right

def StandsFirst (origin : Nat) (word t : Text) (position : Nat) : Prop :=
  LeastFrom origin (fun place => StandsAt word none place t) position

theorem stands_behind (word done rest : Text) (distance : Nat) :
    StandsAt word none (bytes done + distance) (done ++ rest) ↔ StandsAt word done.getLast? distance rest := by
  constructor
  · intro stands
    obtain ⟨left, right, eq, size, alone⟩ := stands
    obtain ⟨inner, rfl⟩ := prefix_of_bytes done left _ (List.prefix_append done rest) ⟨_, eq.symm⟩ (by omega)
    rw [bytes_append] at size
    rw [List.append_assoc] at eq
    rw [alone_append, Option.or_none] at alone
    exact ⟨inner, right, List.append_cancel_left eq, by omega, alone⟩
  · intro stands
    obtain ⟨left, right, rfl, rfl, alone⟩ := stands
    refine ⟨done ++ left, right, by simp, bytes_append done left, ?_⟩
    rwa [alone_append, Option.or_none]

theorem cut_word_first (word : Text) (before : Option Char) (t left right : Text) (unbordered : Unbordered word)
    (found : cutWord? word 0 before t = some (left, right)) :
    StandsAt word before (bytes left) t ∧ ∀ other, StandsAt word before other t → bytes left ≤ other := by
  obtain ⟨joined, alone, first⟩ := (cut_word_some_iff word before t left right unbordered).mp found
  refine ⟨⟨left, right, joined, rfl, alone⟩, ?_⟩
  intro other stands
  obtain ⟨a, b, eq, rfl, aside⟩ := stands
  exact bytes_prefix left a (List.prefix_of_prefix_length_le ⟨_, joined.symm⟩ ⟨_, eq.symm⟩ (first a b eq aside))

theorem cut_word_missing (word : Text) (before : Option Char) (t : Text) (unbordered : Unbordered word) :
    cutWord? word 0 before t = none ↔ ∀ distance, ¬ StandsAt word before distance t := by
  rw [cut_word_none_iff word before t unbordered]
  constructor
  · intro absent distance stands
    obtain ⟨left, right, eq, _, alone⟩ := stands
    exact absent left right eq alone
  · intro absent left right eq alone
    exact absent (bytes left) ⟨left, right, eq, rfl, alone⟩

theorem stands_first_iff (word done rest : Text) (position : Nat) (unbordered : Unbordered word) :
    StandsFirst (bytes done) word (done ++ rest) position ↔
      ∃ left right, cutWord? word 0 done.getLast? rest = some (left, right) ∧ bytes (done ++ left) = position :=
  least_from_iff done _ _ _ (stands_behind word done rest)
    (fun left right => cut_word_first word _ rest left right unbordered) (cut_word_missing word _ rest unbordered).mp
    position

theorem stands_nowhere_iff (word done rest : Text) (unbordered : Unbordered word) :
    cutWord? word 0 done.getLast? rest = none ↔
      ∀ position, bytes done ≤ position → ¬ StandsAt word none position (done ++ rest) := by
  rw [cut_word_missing word _ rest unbordered]
  constructor
  · intro absent position behind stands
    obtain ⟨distance, rfl⟩ := Nat.exists_eq_add_of_le behind
    exact absent distance ((stands_behind word done rest distance).mp stands)
  · intro absent distance stands
    exact absent _ (Nat.le_add_right _ _) ((stands_behind word done rest distance).mpr stands)

theorem first_from_least (origin : Nat) (mark t : Text) (position : Nat) :
    FirstFrom origin mark t position ↔ LeastFrom origin (fun place => OccursAt mark place t) position :=
  ⟨fun first => ⟨first.behind, first.occurs, first.first⟩, fun least => ⟨least.behind, least.holds, least.least⟩⟩

theorem first_from_iff (mark done rest : Text) (position : Nat) (filled : mark ≠ []) :
    FirstFrom (bytes done) mark (done ++ rest) position ↔
      ∃ left right, cut? mark rest = some (left, right) ∧ bytes (done ++ left) = position := by
  rw [first_from_least]
  refine least_from_iff done _ _ _ (occurs_behind mark done rest) ?_ ?_ position
  · intro left right found
    exact offset_first mark rest (bytes left) filled (by rw [offset?, found]; rfl)
  · intro missing distance occurs
    obtain ⟨left, right, eq, _⟩ := occurs
    exact (cut_none_iff mark rest filled).mp missing ⟨left, right, by simp [eq]⟩

structure Narrowing (t : Text) (head link colon : Nat) : Prop where
  loop : StandsFirst 0 "for".toList t head
  member : StandsFirst (head + 3) "in".toList t link
  projection : FirstFrom (link + 2) [':'] t colon

theorem joined_behind_for (t beforeFor afterFor : Text)
    (found : cutWord? "for".toList 0 none t = some (beforeFor, afterFor)) :
    t = (beforeFor ++ "for".toList) ++ afterFor ∧ bytes (beforeFor ++ "for".toList) = bytes beforeFor + 3 ∧
      (beforeFor ++ "for".toList).getLast? = some 'r' :=
  ⟨by simpa using cut_word_joins _ _ _ _ _ _ found, bytes_append beforeFor _, by rw [List.getLast?_append]; rfl⟩

theorem joined_behind_in (done rest beforeIn afterIn : Text) (before : Option Char)
    (found : cutWord? "in".toList 0 before rest = some (beforeIn, afterIn)) :
    done ++ rest = (done ++ beforeIn ++ "in".toList) ++ afterIn ∧
      bytes (done ++ beforeIn ++ "in".toList) = bytes (done ++ beforeIn) + 2 :=
  ⟨by simp [cut_word_joins _ _ _ _ _ _ found], bytes_append _ _⟩

theorem narrowing_source (t : Text) (head link colon : Nat) (narrowing : Narrowing t head link colon) :
    collection? t = some (between (link + 2) colon t) := by
  obtain ⟨loop, member, projection⟩ := narrowing
  obtain ⟨beforeFor, afterFor, forFound, rfl⟩ := (stands_first_iff _ [] t head for_unbordered).mp loop
  obtain ⟨forJoins, forSize, forLast⟩ := joined_behind_for t beforeFor afterFor forFound
  rw [List.nil_append, ← forSize, forJoins] at member
  obtain ⟨beforeIn, afterIn, inFound, rfl⟩ := (stands_first_iff _ _ afterFor link in_unbordered).mp member
  obtain ⟨inJoins, inSize⟩ := joined_behind_in (beforeFor ++ "for".toList) afterFor beforeIn afterIn _ inFound
  rw [← inSize, forJoins, inJoins] at projection
  obtain ⟨source, rest, colonFound, rfl⟩ := (first_from_iff _ _ afterIn colon (by simp)).mp projection
  have colonJoins : afterIn = source ++ ([':'] ++ rest) := by simpa using cut_joins _ _ _ _ colonFound
  have whole : t = (beforeFor ++ "for".toList ++ beforeIn ++ "in".toList) ++ (source ++ ([':'] ++ rest)) := by
    rw [← colonJoins, ← inJoins]
    exact forJoins
  have lies : between (bytes (beforeFor ++ "for".toList ++ beforeIn ++ "in".toList))
      (bytes (beforeFor ++ "for".toList ++ beforeIn ++ "in".toList ++ source)) t = source := by
    rw [whole, bytes_append _ source, between_bytes]
  rw [forLast] at inFound
  rw [← inSize, lies]
  exact (collection_some_iff t source).mpr ⟨_, _, _, _, rest, forFound, inFound, colonFound⟩

theorem narrowing_exists (t source : Text) (found : collection? t = some source) :
    ∃ head link colon, Narrowing t head link colon := by
  obtain ⟨beforeFor, afterFor, beforeIn, afterIn, rest, forFound, inFound, colonFound⟩ :=
    (collection_some_iff t source).mp found
  obtain ⟨forJoins, forSize, forLast⟩ := joined_behind_for t beforeFor afterFor forFound
  obtain ⟨inJoins, inSize⟩ := joined_behind_in (beforeFor ++ "for".toList) afterFor beforeIn afterIn _ inFound
  rw [← forLast] at inFound
  refine ⟨bytes beforeFor, bytes (beforeFor ++ "for".toList ++ beforeIn),
    bytes (beforeFor ++ "for".toList ++ beforeIn ++ "in".toList ++ source), ?_, ?_, ?_⟩
  · exact (stands_first_iff _ [] t _ for_unbordered).mpr ⟨beforeFor, afterFor, forFound, rfl⟩
  · rw [← forSize, forJoins]
    exact (stands_first_iff _ _ afterFor _ in_unbordered).mpr ⟨beforeIn, afterIn, inFound, rfl⟩
  · rw [← inSize, forJoins, inJoins]
    exact (first_from_iff _ _ afterIn _ (by simp)).mpr ⟨source, rest, colonFound, rfl⟩

theorem narrowed_colonless (t source : Text) (found : collection? t = some source) : ':' ∉ source := by
  obtain ⟨_, _, _, afterIn, rest, _, _, colonFound⟩ := (collection_some_iff t source).mp found
  obtain ⟨joined, first⟩ := (cut_some_iff [':'] afterIn source rest (by simp)).mp colonFound
  intro inside
  -- A colon of its own would stand before the one that ends it.
  obtain ⟨a, b, rfl⟩ := List.append_of_mem inside
  have early := first a (b ++ ':' :: rest) (by simp [joined])
  rw [List.length_append, List.length_cons] at early
  omega

/-- A text is narrowed to what lies between its first word in behind its first word for and the first colon behind
that, and stays as it is when one of the three is missing. Each search for one of the two words finds the least place
behind what has been passed, and fails only where there is none. A narrowed text is narrowed no further. -/
theorem comprehension_narrowed (t : Text) :
    (∀ head link colon, Narrowing t head link colon →
      collection t = between (link + 2) colon t ∧ ':' ∉ collection t) ∧
    ((¬ ∃ head link colon, Narrowing t head link colon) → collection t = t) ∧
    collection (collection t) = collection t ∧
    ∀ word ∈ ["for".toList, "in".toList], ∀ done rest, t = done ++ rest →
      (∀ position, StandsFirst (bytes done) word t position ↔
        ∃ left right, cutWord? word 0 done.getLast? rest = some (left, right) ∧ bytes (done ++ left) = position) ∧
      (cutWord? word 0 done.getLast? rest = none ↔
        ∀ position, bytes done ≤ position → ¬ StandsAt word none position t) := by
  refine ⟨?_, ?_, ?_, ?_⟩
  · intro head link colon narrowing
    have found := narrowing_source t head link colon narrowing
    have whole : collection t = between (link + 2) colon t := by rw [collection, found, Option.getD_some]
    rw [whole]
    exact ⟨rfl, narrowed_colonless t _ found⟩
  · intro absent
    cases found : collection? t with
    | none => rw [collection, found, Option.getD_none]
    | some source => exact absurd (narrowing_exists t source found) absent
  · cases found : collection? t with
    | none =>
        have kept : collection t = t := by rw [collection, found, Option.getD_none]
        rw [kept, kept]
    | some source =>
        have whole : collection t = source := by rw [collection, found, Option.getD_some]
        rw [whole, collection_colonless source (narrowed_colonless t source found)]
  · intro word keyword done rest joined
    have unbordered : Unbordered word := by
      cases List.mem_cons.mp keyword with
      | inl same => exact same ▸ for_unbordered
      | inr other => exact List.mem_singleton.mp other ▸ in_unbordered
    subst joined
    exact ⟨fun position => stands_first_iff word done rest position unbordered,
      stands_nowhere_iff word done rest unbordered⟩

theorem comprehension_narrowed_inner :
    let t : Text := "[for-each, é, for inst in var.in : a:b]".toList
    let plain : Text := "format(var.instance, a:b)".toList
    Narrowing t 15 24 34 ∧ collection t = " var.in ".toList ∧
      (¬ ∃ head link colon, Narrowing plain head link colon) ∧ collection plain = plain := by
  intro t plain
  obtain ⟨narrows, _, _, searches⟩ := comprehension_narrowed t
  have loop : StandsFirst 0 "for".toList t 15 := ((searches _ (by simp) [] t rfl).1 15).mpr ⟨_, _, rfl, rfl⟩
  have member : StandsFirst 18 "in".toList t 24 :=
    ((searches _ (by simp) "[for-each, é, for".toList _ rfl).1 24).mpr ⟨_, _, rfl, rfl⟩
  have projection : FirstFrom 26 [':'] t 34 :=
    (first_from_iff [':'] "[for-each, é, for inst in".toList _ 34 (by simp)).mpr ⟨_, _, rfl, rfl⟩
  have narrowing : Narrowing t 15 24 34 := ⟨loop, member, projection⟩
  have absent : ¬ ∃ head link colon, Narrowing plain head link colon := by
    intro found
    obtain ⟨head, link, colon, other⟩ := found
    have nothing : collection? plain = none := rfl
    rw [narrowing_source plain head link colon other] at nothing
    cases nothing
  exact ⟨narrowing, (narrows 15 24 34 narrowing).1, absent, (comprehension_narrowed plain).2.1 absent⟩

end Interpolation
