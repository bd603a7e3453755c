import Interpolation.Reference
import Interpolation.Proofs.Identifiers

set_option autoImplicit false

namespace Interpolation

open Text

theorem begins_capitalized (b c d : Char) (plain : b.isAlphanum = true) (upper : c.isUpper = true)
    (lower : d.isLower = true) : beginsWord (some b) c (some d) = true := by
  have kinds : b.isUpper = true ∨ b.isLower = true ∨ b.isDigit = true := by
    simpa [Char.isAlphanum, Char.isAlpha, or_assoc] using plain
  simp only [beginsWord, upper, lower, Option.any_some, Bool.and_true, Bool.true_and, Bool.or_eq_true]
  tauto

theorem begins_before_capital (before : Option Char) (c d : Char) (upper : d.isUpper = true) :
    beginsWord before c (some d) = beginsWord before c none := by
  have lower : d.isLower = false := by
    cases small : d.isLower with
    | false => rfl
    | true => exact absurd upper (Char.not_isUpper_of_isLower small)
  simp [beginsWord, lower]

theorem word_pieces_capitalized (before : Option Char) (a : Text) (c d : Char) (rest : Text)
    (upper : c.isUpper = true) (lower : d.isLower = true)
    (joined : (a.getLast?.or before).any Char.isAlphanum = true) :
    wordPieces before (a ++ c :: d :: rest) = wordPieces before a ++ wordPieces none (c :: d :: rest) := by
  have plain : c.isAlphanum = true := by simp [Char.isAlphanum, Char.isAlpha, upper]
  induction a generalizing before with
  | nil =>
      obtain ⟨b, rfl, here⟩ := (Option.any_eq_true _ _).mp joined
      have begins := begins_capitalized b c d here upper lower
      have alone : beginsWord none c (some d) = false := by simp [beginsWord]
      simp [wordPieces, plain, begins, alone]
  | cons e a ih =>
      have ends : beginsWord before e (a ++ c :: d :: rest).head? = beginsWord before e a.head? := by
        cases a with
        | nil => exact begins_before_capital before e c upper
        | cons f a => rfl
      have later : (a.getLast?.or (some e)).any Char.isAlphanum = true := by
        rw [List.getLast?_cons] at joined
        cases last : a.getLast? <;> simpa [last] using joined
      rw [List.cons_append, wordPieces, wordPieces, ends, ih (some e) later,
        join_head_append e _ _ (word_pieces_filled (some e) a)]
      split
      · rfl
      · split <;> rfl

theorem words_capitalized (a : Text) (c d : Char) (rest : Text) (upper : c.isUpper = true) (lower : d.isLower = true) :
    words (a ++ c :: d :: rest) = words a ++ words (c :: d :: rest) := by
  cases List.eq_nil_or_concat a with
  | inl empty => rw [empty]; rfl
  | inr last =>
      obtain ⟨front, b, rfl⟩ := last
      rw [List.concat_eq_append]
      cases plain : b.isAlphanum with
      | true =>
          rw [words, word_pieces_capitalized none _ c d rest upper lower (by simp [plain]), List.filter_append]
          rfl
      | false =>
          have behind := words_separated front b (c :: d :: rest) plain
          have alone := words_separated front b [] plain
          rw [List.append_assoc, List.singleton_append, behind, alone]
          simp [words, wordPieces]

theorem join_words_concat (texts : List Text) (word : Text) (filled : texts ≠ []) :
    joinWords (texts ++ [word]) = joinWords texts ++ capitalize word := by
  cases texts with
  | nil => exact absurd rfl filled
  | cons first later => simp [joinWords]

theorem words_empty_iff (t : Text) : words t = [] ↔ t.any Char.isAlphanum = false := by
  rw [List.any_eq_false, ← List.filter_eq_nil_iff, ← words_flatten]
  constructor
  · intro none
    rw [none, List.flatten_nil]
  · intro nothing
    cases cut : words t with
    | nil => rfl
    | cons word later =>
        have member : word ∈ words t := by simp [cut]
        exact absurd (List.flatten_eq_nil_iff.mp nothing word member) (words_each t word member).filled

def propertyName (ofModule : Bool) (place : Nat) (segment : Text) : Text :=
  if ofModule && place == 0 then
    if segment.any Char.isAlphanum then camelCase segment ++ "Output".toList else "output".toList
  else camelCase segment

theorem output_words (segment : Text) : words (segment ++ "Output".toList) = words segment ++ ["Output".toList] :=
  words_capitalized segment 'O' 'u' "tput".toList rfl rfl

theorem output_name (segment : Text) :
    camelCase (segment ++ "Output".toList) =
      if segment.any Char.isAlphanum then camelCase segment ++ "Output".toList else "output".toList := by
  rw [camelCase, output_words]
  by_cases filled : segment.any Char.isAlphanum = true
  · have some : words segment ≠ [] := fun none => by simp [(words_empty_iff segment).mp none] at filled
    rw [if_pos filled, join_words_concat _ _ some]
    rfl
  · rw [if_neg filled, (words_empty_iff segment).mpr (by simpa using filled)]
    rfl

theorem property_name_first (ofModule : Bool) (segment : Text) :
    propertyName ofModule 0 segment = camelCase (if ofModule then segment ++ "Output".toList else segment) := by
  cases ofModule with
  | false => rfl
  | true => rw [if_pos rfl, output_name]; rfl

theorem property_names_later (ofModule : Bool) (segments : List Text) :
    (segments.mapIdx fun place => propertyName ofModule (place + 1)) = segments.map camelCase := by
  have plain (place : Nat) : propertyName ofModule (place + 1) = camelCase := by
    funext segment
    simp [propertyName]
  apply List.ext_getElem?
  intro place
  simp [plain]

theorem properties_by_place (segments : List Text) :
    properties segments = (segments.drop 2).mapIdx (propertyName (segments.head? == some Kind.moduleCall.word)) := by
  rw [properties]
  cases segments.drop 2 with
  | nil => rfl
  | cons first rest => simp only [List.mapIdx_cons, property_name_first, property_names_later, beq_iff_eq]

theorem path_some_iff (expression : Expression) (names : List Text) :
    Expression.path? expression = some names ↔
      ∃ head properties, names = head :: properties ∧ expression = properties.foldl .member (.identifier head) := by
  constructor
  · intro path
    fun_induction Expression.path? expression generalizing names with
    | case1 name => exact ⟨name, [], (Option.some.inj path).symm, rfl⟩
    | case2 object property ih =>
        obtain ⟨front, inner, rfl⟩ := Option.map_eq_some_iff.mp path
        obtain ⟨head, properties, rfl, rfl⟩ := ih front inner
        exact ⟨head, properties ++ [property], rfl, by simp⟩
    | case3 | case4 => cases path
  · intro chained
    obtain ⟨head, properties, rfl, rfl⟩ := chained
    exact Expression.path_access (.identifier head) [head] properties rfl

/-- The path of a chain is the name of its entity and behind it one property for each further segment, in their order.
Only the first property of a module call has a suffix; the words of its segment are cut as without it. Every expression
with a path is built again by accessing the properties one after the other from the identifier on. -/
theorem chain_path_by_segments (reference : Reference) :
    Expression.path? (chain reference) = some (entityName reference.target.full ::
      (reference.segments.drop 2).mapIdx (propertyName (reference.segments.head? == some "module".toList))) ∧
    (∀ segment, words (segment ++ "Output".toList) = words segment ++ ["Output".toList]) ∧
    ∀ expression names, Expression.path? expression = some names ↔
      ∃ head properties, names = head :: properties ∧ expression = properties.foldl .member (.identifier head) := by
  refine ⟨?_, output_words, path_some_iff⟩
  rw [chain, properties_by_place, Expression.path_access _ _ _ rfl]
  rfl

example : Expression.path? (chain (.anchored 2 "module.net".toList "module.net.vpcID._".toList)) =
    some ["net".toList, "vpcIdOutput".toList, []] := by decide

end Interpolation
