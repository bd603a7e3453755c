import Mathlib
import Interpolation.Identifier
import Interpolation.Proofs.Matching
import Interpolation.Proofs.Scanning

set_option autoImplicit false

/- Mathlib is imported whole for the lemmas on the case of ASCII characters, which no single module of it imports. -/
namespace Interpolation

open Text

def isSmall (c : Char) : Bool := c.isLower || c.isDigit

theorem letter_no_digit (c : Char) (letter : c.isAlpha = true) : c.isDigit = false := by
  simp [Char.isDigit, Char.isAlpha, Char.isUpper, Char.isLower, UInt32.le_iff_toNat_le] at letter ⊢
  omega

theorem upper_letter (c : Char) (upper : c.isUpper = true) : c.isAlpha = true := by simp [Char.isAlpha, upper]

theorem digit_no_upper (c : Char) (digit : c.isDigit = true) : c.isUpper = false := by
  cases upper : c.isUpper with
  | false => rfl
  | true =>
      rw [letter_no_digit c (upper_letter c upper)] at digit
      cases digit

theorem small_no_upper (c : Char) (small : isSmall c = true) : c.isUpper = false := by
  cases Bool.or_eq_true_iff.mp small with
  | inl lower => simpa using Char.not_isUpper_of_isLower lower
  | inr digit => exact digit_no_upper c digit

theorem small_no_underscore (c : Char) (small : isSmall c = true) : c ≠ '_' := by
  intro same
  rw [same] at small
  cases small

theorem upper_no_underscore (c : Char) (upper : c.isUpper = true) : c ≠ '_' := by
  intro same
  rw [same] at upper
  cases upper

theorem lower_digit (c : Char) : c.toLower.isDigit = c.isDigit := by
  cases upper : c.isUpper with
  | false => rw [Char.toLower_eq_of_not_isUpper (by simp [upper])]
  | true =>
      have letter := upper_letter c upper
      have again : c.toLower.isAlpha = true := by rw [Char.isAlpha_toLower_eq_isAlpha, letter]
      rw [letter_no_digit c letter, letter_no_digit c.toLower again]

theorem lower_small (c : Char) (plain : c.isAlphanum = true) : isSmall c.toLower = true := by
  rw [isSmall, Char.isLower_toLower_eq_isAlpha, lower_digit]
  exact plain

theorem digit_lower (c : Char) (digit : c.isDigit = true) : c.toLower = c :=
  Char.toLower_eq_of_not_isUpper (by simp [digit_no_upper c digit])

structure IsWord (word : Text) : Prop where
  filled : word ≠ []
  plain : ∀ c ∈ word, c.isAlphanum = true

theorem join_head_filled (c : Char) (pieces : List Text) : joinHead c pieces ≠ [] := by
  cases pieces <;> simp [joinHead]

theorem word_pieces_filled (before : Option Char) (t : Text) : wordPieces before t ≠ [] := by
  cases t with
  | nil => simp [wordPieces]
  | cons c rest =>
      rw [wordPieces]
      split
      · simp
      · split
        · simp
        · exact join_head_filled c _

theorem join_head_flatten (c : Char) (pieces : List Text) : (joinHead c pieces).flatten = c :: pieces.flatten := by
  cases pieces <;> rfl

theorem word_pieces_flatten (before : Option Char) (t : Text) :
    (wordPieces before t).flatten = t.filter Char.isAlphanum := by
  induction t generalizing before with
  | nil => rfl
  | cons c rest ih =>
      cases plain : c.isAlphanum with
      | false => simp [wordPieces, plain, ih]
      | true =>
          by_cases begins : beginsWord before c rest.head? = true <;>
            simp [wordPieces, plain, begins, join_head_flatten, ih]

theorem words_flatten (t : Text) : (words t).flatten = t.filter Char.isAlphanum := by
  rw [words, List.flatten_filter_not_isEmpty, word_pieces_flatten]

theorem words_each (t word : Text) (member : word ∈ words t) : IsWord word := by
  obtain ⟨_, filled⟩ := List.mem_filter.mp member
  refine ⟨by simpa using filled, ?_⟩
  intro c inside
  have plain : c ∈ t.filter Char.isAlphanum := by
    rw [← words_flatten]
    exact List.mem_flatten.mpr ⟨word, member, inside⟩
  exact (List.mem_filter.mp plain).2

theorem separator_kinds (d : Char) (separates : d.isAlphanum = false) :
    d.isUpper = false ∧ d.isLower = false ∧ d.isDigit = false := by
  simpa [Char.isAlphanum, Char.isAlpha, and_assoc] using separates

theorem begins_before_separator (before : Option Char) (c d : Char) (separates : d.isAlphanum = false) :
    beginsWord before c (some d) = beginsWord before c none := by
  obtain ⟨_, lower, _⟩ := separator_kinds d separates
  simp [beginsWord, lower]

theorem begins_behind_separator (d c : Char) (next : Option Char) (separates : d.isAlphanum = false) :
    beginsWord (some d) c next = beginsWord none c next := by
  obtain ⟨upper, lower, digit⟩ := separator_kinds d separates
  simp [beginsWord, upper, lower, digit]

theorem word_pieces_behind (d : Char) (t : Text) (separates : d.isAlphanum = false) :
    wordPieces (some d) t = wordPieces none t := by
  cases t with
  | nil => rfl
  | cons c rest => simp only [wordPieces, begins_behind_separator d c _ separates]

theorem word_pieces_separated (before : Option Char) (a : Text) (d : Char) (b : Text)
    (separates : d.isAlphanum = false) :
    wordPieces before (a ++ d :: b) = wordPieces before a ++ wordPieces none b := by
  induction a generalizing before with
  | nil => simp [wordPieces, separates, word_pieces_behind]
  | cons c rest ih =>
      have ends : beginsWord before c (rest ++ d :: b).head? = beginsWord before c rest.head? := by
        cases rest with
        | nil => exact begins_before_separator before c d separates
        | cons e rest => rfl
      rw [List.cons_append, wordPieces, wordPieces, ends, ih,
        join_head_append c _ _ (word_pieces_filled (some c) rest)]
      split
      · rfl
      · split <;> rfl

theorem words_separated (a : Text) (d : Char) (b : Text) (separates : d.isAlphanum = false) :
    words (a ++ d :: b) = words a ++ words b := by
  rw [words, word_pieces_separated none a d b separates, List.filter_append]
  rfl

inductive LaterWord : Text → Prop where
  | capital (c : Char) (tail : Text) (upper : c.isUpper = true) (small : ∀ d ∈ tail, isSmall d = true) :
      LaterWord (c :: tail)
  | digit (c : Char) (tail : Text) (digit : c.isDigit = true) (small : ∀ d ∈ tail, isSmall d = true) :
      LaterWord ('_' :: c :: tail)

theorem lowercase_cons (c : Char) (tail : Text) : lowercase (c :: tail) = c.toLower :: lowercase tail := rfl

theorem lowercase_small (word : Text) (plain : ∀ c ∈ word, c.isAlphanum = true) :
    ∀ c ∈ lowercase word, isSmall c = true := by
  intro c member
  obtain ⟨d, inside, rfl⟩ := List.mem_map.mp member
  exact lower_small d (plain d inside)

theorem lowercase_filled (word : Text) (filled : word ≠ []) : lowercase word ≠ [] := by simpa [lowercase] using filled

theorem capitalize_cases (c : Char) (tail : Text) (plain : c.isAlphanum = true) :
    (c.isDigit = true ∧ capitalize (c :: tail) = '_' :: c :: lowercase tail) ∨
      (c.toUpper.isUpper = true ∧ capitalize (c :: tail) = c.toUpper :: lowercase tail) := by
  cases digit : c.isDigit with
  | true => exact .inl ⟨rfl, by rw [capitalize, if_pos digit]⟩
  | false =>
      have letter : c.isAlpha = true := by simpa [Char.isAlphanum, digit] using plain
      exact .inr ⟨by rw [Char.isUpper_toUpper_eq_isAlpha, letter], by simp [capitalize, digit]⟩

theorem capitalize_later (word : Text) (isWord : IsWord word) : LaterWord (capitalize word) := by
  obtain ⟨filled, plain⟩ := isWord
  cases word with
  | nil => exact absurd rfl filled
  | cons c tail =>
      obtain ⟨first, others⟩ := List.forall_mem_cons.mp plain
      have small := lowercase_small tail others
      cases capitalize_cases c tail first with
      | inl digit => exact digit.2 ▸ .digit c _ digit.1 small
      | inr capital => exact capital.2 ▸ .capital c.toUpper _ capital.1 small

def InCamelCase (name : Text) : Prop :=
  ∃ first later, name = first ++ List.flatten later ∧ first ≠ [] ∧ (∀ c ∈ first, isSmall c = true) ∧
    ∀ word ∈ later, LaterWord word

theorem join_words_shape (word : Text) (later : List Text) (each : ∀ w ∈ word :: later, IsWord w) :
    InCamelCase (joinWords (word :: later)) := by
  obtain ⟨here, behind⟩ := List.forall_mem_cons.mp each
  refine ⟨lowercase word, later.map capitalize, ?_, lowercase_filled word here.filled,
    lowercase_small word here.plain, ?_⟩
  · rw [joinWords, List.flatMap_def]
  · intro name member
    obtain ⟨w, inside, rfl⟩ := List.mem_map.mp member
    exact capitalize_later w (behind w inside)

def content (name : Text) : Text := lowercase (name.filter fun c => c != '_')

theorem content_append (a b : Text) : content (a ++ b) = content a ++ content b := by simp [content, lowercase]

theorem lowercase_again (word : Text) : lowercase (lowercase word) = lowercase word := by
  simp [lowercase, Function.comp_def]

theorem content_lowercase (word : Text) (plain : ∀ c ∈ word, c.isAlphanum = true) :
    content (lowercase word) = lowercase word := by
  have kept : ((lowercase word).filter fun c => c != '_') = lowercase word := by
    apply List.filter_eq_self.mpr
    intro c member
    simpa using small_no_underscore c (lowercase_small word plain c member)
  rw [content, kept, lowercase_again]

theorem content_capitalize (word : Text) (plain : ∀ c ∈ word, c.isAlphanum = true) :
    content (capitalize word) = lowercase word := by
  cases word with
  | nil => rfl
  | cons c tail =>
      obtain ⟨first, others⟩ := List.forall_mem_cons.mp plain
      have behind := content_lowercase tail others
      cases capitalize_cases c tail first with
      | inl digit =>
          have other : c ≠ '_' := small_no_underscore c (by simp [isSmall, digit.1])
          have front : content ['_', c] = [c.toLower] := by simp [content, other, lowercase]
          calc content (capitalize (c :: tail)) = content (['_', c] ++ lowercase tail) := by rw [digit.2]; rfl
            _ = [c.toLower] ++ lowercase tail := by rw [content_append, front, behind]
      | inr capital =>
          have other := upper_no_underscore c.toUpper capital.1
          have front : content [c.toUpper] = [c.toLower] := by simp [content, other, lowercase]
          calc content (capitalize (c :: tail)) = content ([c.toUpper] ++ lowercase tail) := by rw [capital.2]; rfl
            _ = [c.toLower] ++ lowercase tail := by rw [content_append, front, behind]

theorem content_later (later : List Text) (each : ∀ word ∈ later, IsWord word) :
    content (later.flatMap capitalize) = lowercase later.flatten := by
  induction later with
  | nil => rfl
  | cons word later ih =>
      obtain ⟨here, behind⟩ := List.forall_mem_cons.mp each
      rw [List.flatMap_cons, content_append, content_capitalize word here.plain, ih behind]
      simp [lowercase]

theorem content_join_words (texts : List Text) (each : ∀ word ∈ texts, IsWord word) :
    content (joinWords texts) = lowercase texts.flatten := by
  cases texts with
  | nil => rfl
  | cons word later =>
      obtain ⟨here, behind⟩ := List.forall_mem_cons.mp each
      rw [joinWords, content_append, content_lowercase word here.plain, content_later later behind]
      simp [lowercase]

theorem camel_case_content (t : Text) : content (camelCase t) = lowercase (t.filter Char.isAlphanum) := by
  rw [camelCase, content_join_words _ (words_each t), words_flatten]

theorem camel_case_first (t : Text) : (camelCase t).head? = (t.find? Char.isAlphanum).map Char.toLower := by
  rw [← List.head?_filter, ← words_flatten, camelCase]
  cases cut : words t with
  | nil => rfl
  | cons word later =>
      have filled := (words_each t word (by simp [cut])).filled
      cases word with
      | nil => exact absurd rfl filled
      | cons c tail => rfl

/-- The identifier made of a text is empty when the text has no letter or digit, and is in camel case otherwise. It
begins with a digit when the first letter or digit is one, and without its underscores it has all the letters and digits
of the text, once and in order, up to case. -/
theorem camel_case_shape (t : Text) :
    (camelCase t = [] ↔ t.any Char.isAlphanum = false) ∧
    (camelCase t = [] ∨ InCamelCase (camelCase t)) ∧
    (camelCase t).head?.any Char.isDigit = (t.find? Char.isAlphanum).any Char.isDigit ∧
    lowercase ((camelCase t).filter fun c => c != '_') = lowercase (t.filter Char.isAlphanum) := by
  refine ⟨?_, ?_, ?_, camel_case_content t⟩
  · rw [← List.head?_eq_none_iff, camel_case_first, Option.map_eq_none_iff, List.find?_eq_none, List.any_eq_false]
  · rw [camelCase]
    cases cut : words t with
    | nil => exact .inl rfl
    | cons word later => exact .inr (join_words_shape word later (cut ▸ words_each t))
  · rw [camel_case_first, Option.any_map]
    simp [lower_digit]

example : camelCase "HTTPServer--é_1aB".toList = "httpServer_1aB".toList := by decide

def namePieces : Text → List Text
  | [] => [[]]
  | c :: rest =>
      if c = '_' then [] :: namePieces rest
      else if c.isUpper then [] :: joinHead c.toLower (namePieces rest)
      else joinHead c (namePieces rest)

def wordsOfName (name : Text) : List Text := (namePieces name).filter fun piece => !piece.isEmpty

theorem name_pieces_small (word t piece : Text) (later : List Text) (small : ∀ c ∈ word, isSmall c = true)
    (cut : namePieces t = piece :: later) : namePieces (word ++ t) = (word ++ piece) :: later := by
  induction word with
  | nil => exact cut
  | cons c rest ih =>
      obtain ⟨here, behind⟩ := List.forall_mem_cons.mp small
      have upper := small_no_upper c here
      simp [namePieces, small_no_underscore c here, upper, ih behind, joinHead]

theorem name_pieces_capitalize (word t piece : Text) (later : List Text) (isWord : IsWord word)
    (cut : namePieces t = piece :: later) :
    namePieces (capitalize word ++ t) = [] :: (lowercase word ++ piece) :: later := by
  obtain ⟨filled, plain⟩ := isWord
  cases word with
  | nil => exact absurd rfl filled
  | cons c tail =>
      obtain ⟨first, others⟩ := List.forall_mem_cons.mp plain
      have small := lowercase_small tail others
      cases capitalize_cases c tail first with
      | inl digit =>
          have front : ∀ d ∈ c :: lowercase tail, isSmall d = true :=
            List.forall_mem_cons.mpr ⟨by simp [isSmall, digit.1], small⟩
          have behind := name_pieces_small (c :: lowercase tail) t piece later front cut
          rw [digit.2, List.cons_append, namePieces, if_pos rfl, behind, lowercase_cons, digit_lower c digit.1]
      | inr capital =>
          have behind := name_pieces_small (lowercase tail) t piece later small cut
          rw [capital.2, List.cons_append, namePieces, if_neg (upper_no_underscore _ capital.1),
            if_pos capital.1, behind, lowercase_cons, Char.toLower_toUpper_eq_toLower]
          rfl

theorem name_pieces_later (later : List Text) (each : ∀ word ∈ later, IsWord word) :
    namePieces (later.flatMap capitalize) = [] :: later.map lowercase := by
  induction later with
  | nil => rfl
  | cons word later ih =>
      obtain ⟨here, behind⟩ := List.forall_mem_cons.mp each
      rw [List.flatMap_cons, name_pieces_capitalize word _ _ _ here (ih behind), List.append_nil, List.map_cons]

theorem words_of_join_words (texts : List Text) (each : ∀ word ∈ texts, IsWord word) :
    wordsOfName (joinWords texts) = texts.map lowercase := by
  cases texts with
  | nil => rfl
  | cons word later =>
      obtain ⟨here, behind⟩ := List.forall_mem_cons.mp each
      have cut :=
        name_pieces_small (lowercase word) _ _ _ (lowercase_small word here.plain) (name_pieces_later later behind)
      rw [List.append_nil, ← List.map_cons] at cut
      rw [wordsOfName, joinWords, cut]
      apply List.filter_eq_self.mpr
      intro piece member
      obtain ⟨w, inside, rfl⟩ := List.mem_map.mp member
      simpa using lowercase_filled w (each w inside).filled

theorem capitalize_lowercase (word : Text) : capitalize (lowercase word) = capitalize word := by
  cases word with
  | nil => rfl
  | cons c tail =>
      rw [lowercase_cons, capitalize, capitalize, lower_digit, lowercase_again, Char.toUpper_toLower_eq_toUpper]
      by_cases digit : c.isDigit = true
      · rw [if_pos digit, if_pos digit, digit_lower c digit]
      · rw [if_neg digit, if_neg digit]

theorem join_words_lowercase (texts : List Text) : joinWords (texts.map lowercase) = joinWords texts := by
  cases texts with
  | nil => rfl
  | cons word later =>
      rw [List.map_cons, joinWords, joinWords, lowercase_again, List.flatMap_map]
      simp only [capitalize_lowercase]

theorem join_words_eq_iff (texts others : List Text) (each : ∀ word ∈ texts, IsWord word)
    (eachOther : ∀ word ∈ others, IsWord word) :
    joinWords texts = joinWords others ↔ texts.map lowercase = others.map lowercase := by
  constructor
  · intro same
    rw [← words_of_join_words texts each, same, words_of_join_words others eachOther]
  · intro same
    rw [← join_words_lowercase texts, same, join_words_lowercase]

def entityWords (address : Text) : List Text :=
  let first := (segments address).head?.getD []
  let second := (segments address)[1]?.getD []
  if first ∈ ["var".toList, "local".toList, "module".toList] then words second else words first ++ words second

theorem named_alone_iff (t : Text) :
    (Kind.ofWord? t).any Kind.isNamedAlone = true ↔ t ∈ ["var".toList, "local".toList, "module".toList] := by
  constructor
  · intro alone
    obtain ⟨kind, known, named⟩ := (Option.any_eq_true _ _).mp alone
    obtain rfl := Entity.word_of_kind t kind known
    cases kind with
    | resource | data => cases named
    | input | localValue | moduleCall => decide
  · intro member
    have each : ∀ word ∈ ["var".toList, "local".toList, "module".toList],
        (Kind.ofWord? word).any Kind.isNamedAlone = true := by decide
    exact each t member

theorem entity_name_words (address : Text) : entityName address = joinWords (entityWords address) := by
  rw [entityName, entityWords]
  by_cases alone : (Kind.ofWord? ((segments address).head?.getD [])).any Kind.isNamedAlone = true
  · simp only [if_pos alone, if_pos ((named_alone_iff _).mp alone), camelCase]
  · simp only [if_neg alone, if_neg (mt (named_alone_iff _).mpr alone), camelCase, words_separated _ '_' _ rfl]

theorem entity_words_each (address word : Text) (member : word ∈ entityWords address) : IsWord word := by
  rw [entityWords] at member
  split at member
  · exact words_each _ word member
  · cases List.mem_append.mp member with
    | inl front => exact words_each _ word front
    | inr back => exact words_each _ word back

/-- Two texts make the same identifier just when their words are the same up to case: the words hold all letters and
digits of a text in their order, and can be read off the identifier. So two references have the same name just when
their words for it are the same up to case. -/
theorem names_collide_iff (a b : Text) (first second : Reference) :
    (camelCase a = camelCase b ↔ (words a).map lowercase = (words b).map lowercase) ∧
    (words a).flatten = a.filter Char.isAlphanum ∧
    wordsOfName (camelCase a) = (words a).map lowercase ∧
    (entityName first.target.full = entityName second.target.full ↔
      (entityWords first.target.full).map lowercase = (entityWords second.target.full).map lowercase) := by
  refine ⟨join_words_eq_iff _ _ (words_each a) (words_each b), words_flatten a,
    words_of_join_words (words a) (words_each a), ?_⟩
  rw [entity_name_words, entity_name_words]
  exact join_words_eq_iff _ _ (entity_words_each _) (entity_words_each _)

example : entityName "var.aws_instance_web".toList = entityName "aws_instance.Web.id".toList := by decide

end Interpolation
