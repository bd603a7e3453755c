import Interpolation.Proofs.Scalars

set_option autoImplicit false

namespace Interpolation.Json

open Text

def Blank (gap : Text) : Prop := ∀ c ∈ gap, isBlank c = true

mutual
inductive Spells : Json → Text → Prop where
  | null : Spells .null "null".toList
  | yes : Spells (.bool true) "true".toList
  | no : Spells (.bool false) "false".toList
  | number (value : Number) : Spells (.number value) (writeNumber value)
  | string (value : Text) : Spells (.string value) (quote value)
  | noItems (gap : Text) (blank : Blank gap) : Spells (.array []) ('[' :: (gap ++ [']']))
  | array (gap : Text) (items : List Json) (t : Text) (blank : Blank gap) (inside : SpellsItems items t) :
      Spells (.array items) ('[' :: (gap ++ t))
  | noMembers (gap : Text) (blank : Blank gap) : Spells (.object []) ('{' :: (gap ++ ['}']))
  | object (gap : Text) (members : List (Text × Json)) (t : Text) (blank : Blank gap)
      (inside : SpellsMembers members t) : Spells (.object members) ('{' :: (gap ++ t))

inductive SpellsItems : List Json → Text → Prop where
  | last (item : Json) (t after : Text) (spelled : Spells item t) (blank : Blank after) :
      SpellsItems [item] (t ++ (after ++ [']']))
  | more (item : Json) (rest : List Json) (t after before u : Text) (spelled : Spells item t)
      (blankAfter : Blank after) (blankBefore : Blank before) (others : SpellsItems rest u) :
      SpellsItems (item :: rest) (t ++ (after ++ ',' :: (before ++ u)))

inductive SpellsMembers : List (Text × Json) → Text → Prop where
  | last (entry : Text × Json) (t after : Text) (spelled : SpellsMember entry t) (blank : Blank after) :
      SpellsMembers [entry] (t ++ (after ++ ['}']))
  | more (entry : Text × Json) (rest : List (Text × Json)) (t after before u : Text)
      (spelled : SpellsMember entry t) (blankAfter : Blank after) (blankBefore : Blank before)
      (others : SpellsMembers rest u) : SpellsMembers (entry :: rest) (t ++ (after ++ ',' :: (before ++ u)))

inductive SpellsMember : Text × Json → Text → Prop where
  | named (key : Text) (value : Json) (gap t : Text) (blank : Blank gap) (spelled : Spells value t) :
      SpellsMember (key, value) (quote key ++ ':' :: (gap ++ t))
end

theorem blank_none : Blank [] := by
  intro c member
  cases member

theorem blank_space : Blank [' '] := by
  intro c member
  obtain rfl := List.mem_singleton.mp member
  rfl

theorem blank_line (depth : Nat) : Blank (newLine depth) := by
  intro c member
  rcases List.mem_cons.mp member with rfl | space
  · rfl
  · obtain rfl := List.eq_of_mem_replicate space
    rfl

theorem skip_gap (gap : Text) (c : Char) (rest : Text) (blank : Blank gap) (solid : isBlank c = false) :
    skipBlanks (gap ++ c :: rest) = c :: rest := by
  rw [skipBlanks, List.dropWhile_append_of_pos blank, List.dropWhile_cons_of_neg (by simp [solid])]

theorem blank_over (c : Char) (blank : isBlank c = true) : continues c = false := by
  simp only [isBlank, Bool.or_eq_true, beq_iff_eq] at blank
  rcases blank with ((rfl | rfl) | rfl) | rfl <;> rfl

theorem gap_over (gap : Text) (c : Char) (rest : Text) (blank : Blank gap) (ended : continues c = false) :
    isOver (gap ++ c :: rest) = true := by
  cases gap with
  | nil => simp [isOver, ended]
  | cons b gap => simp [isOver, blank_over b (blank b (by simp))]

def isFront (c : Char) : Bool := !isBlank c && c != ']'

theorem number_front (number : Number) :
    ∃ c more, writeNumber number = c :: more ∧ (c = '-' ∨ c.isDigit = true) := by
  cases number with
  | natural n =>
      obtain ⟨c, more, eq, digit⟩ := decimal_cons n
      exact ⟨c, more, eq, .inr digit⟩
  | decimal negative mantissa exponent =>
      cases negative with
      | true => exact ⟨'-', _, rfl, .inl rfl⟩
      | false =>
          obtain ⟨c, more, eq, digit⟩ := decimal_cons mantissa
          exact ⟨c, _, by rw [writeNumber, eq]; rfl, .inr digit⟩

theorem digit_front (c : Char) (digit : c.isDigit = true) : isFront c = true := by
  have notBlank : isBlank c = false := by
    rw [Bool.eq_false_iff]
    intro blank
    simp only [isBlank, Bool.or_eq_true, beq_iff_eq] at blank
    rcases blank with ((rfl | rfl) | rfl) | rfl <;> cases digit
  have notClosing : c ≠ ']' := by
    rintro rfl
    cases digit
  simp [isFront, notBlank, notClosing]

theorem spelled_front (json : Json) (t : Text) (spelled : Spells json t) :
    ∃ c more, t = c :: more ∧ isFront c = true := by
  cases spelled with
  | null => exact ⟨_, _, rfl, rfl⟩
  | yes => exact ⟨_, _, rfl, rfl⟩
  | no => exact ⟨_, _, rfl, rfl⟩
  | number value =>
      obtain ⟨c, more, eq, front⟩ := number_front value
      rcases front with rfl | digit
      · exact ⟨'-', more, eq, rfl⟩
      · exact ⟨c, more, eq, digit_front c digit⟩
  | string => exact ⟨_, _, rfl, rfl⟩
  | noItems => exact ⟨_, _, rfl, rfl⟩
  | array => exact ⟨_, _, rfl, rfl⟩
  | noMembers => exact ⟨_, _, rfl, rfl⟩
  | object => exact ⟨_, _, rfl, rfl⟩

theorem value_number (steps : Nat) (t : Text) (c : Char) (more : Text) (skipped : skipBlanks t = c :: more)
    (front : c = '-' ∨ c.isDigit = true) :
    value? (steps + 1) t = (number? (c :: more)).map fun read => (.number read.1, read.2) := by
  have other (d : Char) (letter : d ∈ ['n', 't', 'f', '"', '[', '{']) : c ≠ d := by
    rintro rfl
    rcases front with rfl | digit
    · exact absurd letter (by decide)
    · simp only [List.mem_cons, List.not_mem_nil, or_false] at letter
      rcases letter with rfl | rfl | rfl | rfl | rfl | rfl <;> cases digit
  rw [value?, skipped]
  split
  case h_7 => rfl
  all_goals
    rename_i same
    exact absurd (List.cons.inj same).1 (other _ (by simp))

theorem value_items (steps : Nat) (t inside : Text) (c : Char) (more : Text) (skipped : skipBlanks t = '[' :: inside)
    (first : skipBlanks inside = c :: more) (filled : c ≠ ']') :
    value? (steps + 1) t = (items? steps (c :: more)).map fun read => (.array read.1, read.2) := by
  simp only [value?, skipped, first]
  split
  · rename_i same
    exact absurd (List.cons.inj same).1 filled
  · rfl

theorem value_members (steps : Nat) (t inside : Text) (c : Char) (more : Text)
    (skipped : skipBlanks t = '{' :: inside) (first : skipBlanks inside = c :: more) (filled : c ≠ '}') :
    value? (steps + 1) t = (members? steps (c :: more)).map fun read => (objectOf read.1, read.2) := by
  simp only [value?, skipped, first]
  split
  · rename_i same
    exact absurd (List.cons.inj same).1 filled
  · rfl

theorem object_named (members : List (Text × Json)) :
    objectOf (members.map fun entry => (some entry.1, entry.2)) = .object members := by
  have named : (members.map fun entry => (some entry.1, entry.2)).mapM
      (fun entry : Option Text × Json => entry.1.map (·, entry.2)) = some members := by
    induction members with
    | nil => rfl
    | cons entry rest ih => simp [ih]
  rw [objectOf, named]

theorem items_front (items : List Json) (t : Text) (spelled : SpellsItems items t) :
    ∃ c more, t = c :: more ∧ isFront c = true := by
  cases spelled with
  | last item t after itemSpelled =>
      obtain ⟨c, more, rfl, front⟩ := spelled_front item t itemSpelled
      exact ⟨c, _, rfl, front⟩
  | more item rest t after before u itemSpelled =>
      obtain ⟨c, more, rfl, front⟩ := spelled_front item t itemSpelled
      exact ⟨c, _, rfl, front⟩

theorem member_front (entry : Text × Json) (t : Text) (spelled : SpellsMember entry t) : ∃ more, t = '"' :: more := by
  cases spelled with
  | named key value gap t => exact ⟨_, rfl⟩

theorem members_front (members : List (Text × Json)) (t : Text) (spelled : SpellsMembers members t) :
    ∃ more, t = '"' :: more := by
  cases spelled with
  | last entry t after memberSpelled =>
      obtain ⟨more, rfl⟩ := member_front entry t memberSpelled
      exact ⟨_, rfl⟩
  | more entry rest t after before u memberSpelled =>
      obtain ⟨more, rfl⟩ := member_front entry t memberSpelled
      exact ⟨_, rfl⟩

-- The induction is on the steps that are left. Three for each character are enough, since a value, its items and an
-- item may begin at one character.
mutual
theorem value_read (steps : Nat) (json : Json) (t before rest : Text) (spelled : Spells json t) (blank : Blank before)
    (ended : isOver rest = true) (enough : 3 * t.length ≤ steps + 2) :
    value? steps (before ++ (t ++ rest)) = some (json, rest) := by
  cases steps with
  | zero =>
      obtain ⟨c, more, rfl, _⟩ := spelled_front json t spelled
      simp only [List.length_cons] at enough
      omega
  | succ steps =>
      obtain ⟨c, more, eq, front⟩ := spelled_front json t spelled
      simp only [isFront, Bool.and_eq_true, Bool.not_eq_true'] at front
      have skipped : skipBlanks (before ++ (t ++ rest)) = t ++ rest := by
        rw [eq, List.cons_append, skip_gap before c _ blank front.1]
      cases spelled with
      | null => rw [value?, skipped]; rfl
      | yes => rw [value?, skipped]; rfl
      | no => rw [value?, skipped]; rfl
      | number value =>
          obtain ⟨d, others, written, digit⟩ := number_front value
          have read := number_read value rest ended
          rw [written, List.cons_append] at read skipped
          rw [written, List.cons_append, value_number steps _ d _ skipped digit, read]
          rfl
      | string value =>
          have read := string_quoted value rest
          have quoted : quote value ++ rest = '"' :: (value.flatMap escape ++ '"' :: rest) := by simp [quote]
          rw [value?, skipped, quoted]
          simp [read]
      | noItems gap gapBlank =>
          have closing := skip_gap gap ']' rest gapBlank rfl
          have opened : '[' :: (gap ++ [']']) ++ rest = '[' :: (gap ++ ']' :: rest) := by simp
          rw [value?, skipped, opened]
          simp [closing]
      | noMembers gap gapBlank =>
          have closing := skip_gap gap '}' rest gapBlank rfl
          have opened : '{' :: (gap ++ ['}']) ++ rest = '{' :: (gap ++ '}' :: rest) := by simp
          rw [value?, skipped, opened]
          simp [closing]
      | array gap items u gapBlank inside =>
          have read := items_read steps items u [] rest inside blank_none (by simp at enough; omega)
          have opened : '[' :: (gap ++ u) ++ rest = '[' :: (gap ++ (u ++ rest)) := by simp
          obtain ⟨d, others, rfl, itemFront⟩ := items_front items u inside
          simp only [isFront, Bool.and_eq_true, Bool.not_eq_true', bne_iff_ne] at itemFront
          rw [opened] at skipped ⊢
          have first := skip_gap gap d (others ++ rest) gapBlank itemFront.1
          rw [List.nil_append, List.cons_append] at read
          rw [value_items steps _ _ d (others ++ rest) skipped first itemFront.2, read]
          rfl
      | object gap members u gapBlank inside =>
          have read := members_read steps members u [] rest inside blank_none (by simp at enough; omega)
          have opened : '{' :: (gap ++ u) ++ rest = '{' :: (gap ++ (u ++ rest)) := by simp
          obtain ⟨others, rfl⟩ := members_front members u inside
          rw [opened] at skipped ⊢
          have first := skip_gap gap '"' (others ++ rest) gapBlank rfl
          rw [List.nil_append, List.cons_append] at read
          rw [value_members steps _ _ '"' (others ++ rest) skipped first (by decide), read, Option.map_some,
            object_named]

theorem items_read (steps : Nat) (items : List Json) (t before rest : Text) (spelled : SpellsItems items t)
    (blank : Blank before) (enough : 3 * t.length ≤ steps) :
    items? steps (before ++ (t ++ rest)) = some (items, rest) := by
  cases steps with
  | zero => cases spelled <;> simp at enough
  | succ steps =>
      cases spelled with
      | last item u after itemSpelled gapBlank =>
          have value := value_read steps item u before (after ++ (']' :: rest)) itemSpelled blank
            (gap_over after ']' rest gapBlank rfl) (by simp at enough; omega)
          have closing := skip_gap after ']' rest gapBlank rfl
          simp only [List.append_assoc, List.singleton_append, items?, value, closing]
      | more item others u after next v itemSpelled gapBlank nextBlank tail =>
          have value := value_read steps item u before (after ++ (',' :: (next ++ (v ++ rest)))) itemSpelled blank
            (gap_over after ',' _ gapBlank rfl) (by simp at enough; omega)
          have comma := skip_gap after ',' (next ++ (v ++ rest)) gapBlank rfl
          have read := items_read steps others v next rest tail nextBlank (by simp at enough; omega)
          simp only [List.append_assoc, List.cons_append, items?, value, comma, read, Option.map_some]

theorem members_read (steps : Nat) (members : List (Text × Json)) (t before rest : Text)
    (spelled : SpellsMembers members t) (blank : Blank before) (enough : 3 * t.length ≤ steps) :
    members? steps (before ++ (t ++ rest)) =
      some (members.map fun entry => (some entry.1, entry.2), rest) := by
  cases steps with
  | zero => cases spelled <;> simp at enough
  | succ steps =>
      cases spelled with
      | last entry u after itemSpelled gapBlank =>
          have value := member_read steps entry u before (after ++ ('}' :: rest)) itemSpelled blank
            (gap_over after '}' rest gapBlank rfl) (by simp at enough; omega)
          have closing := skip_gap after '}' rest gapBlank rfl
          simp [members?, value, closing]
      | more entry others u after next v itemSpelled gapBlank nextBlank tail =>
          have value := member_read steps entry u before (after ++ (',' :: (next ++ (v ++ rest)))) itemSpelled blank
            (gap_over after ',' _ gapBlank rfl) (by simp at enough; omega)
          have comma := skip_gap after ',' (next ++ (v ++ rest)) gapBlank rfl
          have read := members_read steps others v next rest tail nextBlank (by simp at enough; omega)
          simp only [List.append_assoc, List.cons_append, members?, value, comma, read, Option.map_some, List.map_cons]

theorem member_read (steps : Nat) (entry : Text × Json) (t before rest : Text) (spelled : SpellsMember entry t)
    (blank : Blank before) (ended : isOver rest = true) (enough : 3 * t.length ≤ steps + 1) :
    member? steps (before ++ (t ++ rest)) = some ((some entry.1, entry.2), rest) := by
  cases steps with
  | zero => cases spelled with | named => simp [quote] at enough; omega
  | succ steps =>
      cases spelled with
      | named key value gap u gapBlank valueSpelled =>
          have read := value_read steps value u gap rest valueSpelled gapBlank ended (by simp [quote] at enough; omega)
          have named := string_quoted key (':' :: (gap ++ (u ++ rest)))
          have skipped := skip_gap before '"' (key.flatMap escape ++ '"' :: ':' :: (gap ++ (u ++ rest))) blank rfl
          have colon : skipBlanks (':' :: (gap ++ (u ++ rest))) = ':' :: (gap ++ (u ++ rest)) := rfl
          have whole : quote key ++ ':' :: (gap ++ u) ++ rest =
              '"' :: (key.flatMap escape ++ '"' :: ':' :: (gap ++ (u ++ rest))) := by simp [quote]
          rw [whole, member?, skipped]
          simp only [named, colon, read, Option.map_some]
end

theorem read_spelled (json : Json) (t : Text) (spelled : Spells json t) : read? t = some json := by
  have read := value_read (3 * t.length + 3) json t [] [] spelled blank_none rfl (by omega)
  rw [List.nil_append, List.append_nil] at read
  rw [read?, read]
  rfl

mutual
def isSpelled : Json → Bool
  | .array items => areSpelledItems items
  | .object members => areSpelledMembers members
  | .illFormed => false
  | .null | .bool _ | .number _ | .string _ => true

def areSpelledItems : List Json → Bool
  | [] => true
  | item :: rest => isSpelled item && areSpelledItems rest

def areSpelledMembers : List (Text × Json) → Bool
  | [] => true
  | (_, value) :: rest => isSpelled value && areSpelledMembers rest
end

mutual
theorem plain_spelled (json : Json) (plain : json.isPlain = true) : json.isSpelled = true := by
  cases json with
  | array items => exact plain_items_spelled items plain
  | object members => exact plain_members_spelled members plain
  | illFormed => cases plain
  | null => rfl
  | bool => rfl
  | number => rfl
  | string => rfl

theorem plain_items_spelled (items : List Json) (plain : arePlainItems items = true) :
    areSpelledItems items = true := by
  cases items with
  | nil => rfl
  | cons item rest =>
      have both := Bool.and_eq_true_iff.mp plain
      exact Bool.and_eq_true_iff.mpr ⟨plain_spelled item both.1, plain_items_spelled rest both.2⟩

theorem plain_members_spelled (members : List (Text × Json)) (plain : arePlainMembers members = true) :
    areSpelledMembers members = true := by
  cases members with
  | nil => rfl
  | cons entry rest =>
      obtain ⟨key, value⟩ := entry
      have both := Bool.and_eq_true_iff.mp plain
      exact Bool.and_eq_true_iff.mpr ⟨plain_spelled value both.1, plain_members_spelled rest both.2⟩
end

mutual
theorem compact_spelled (json : Json) (formed : json.isSpelled = true) : Spells json json.compact := by
  cases json with
  | null => exact .null
  | bool value => cases value with | true => exact .yes | false => exact .no
  | number value => exact .number value
  | string value => exact .string value
  | illFormed => cases formed
  | array items =>
      cases items with
      | nil => exact .noItems [] blank_none
      | cons item rest =>
          have both := Bool.and_eq_true_iff.mp formed
          have inside := compact_items_spelled item rest (compact_spelled item both.1) both.2
          exact .array [] _ _ blank_none inside
  | object members =>
      cases members with
      | nil => exact .noMembers [] blank_none
      | cons entry rest =>
          obtain ⟨key, value⟩ := entry
          have both := Bool.and_eq_true_iff.mp formed
          have inside := compact_members_spelled key value rest (compact_spelled value both.1) both.2
          exact .object [] _ _ blank_none inside

theorem compact_items_spelled (item : Json) (rest : List Json) (spelled : Spells item item.compact)
    (formed : areSpelledItems rest = true) :
    SpellsItems (item :: rest) (compactItems (item :: rest) ++ [']']) := by
  cases rest with
  | nil => exact .last item _ [] spelled blank_none
  | cons next rest =>
      have both := Bool.and_eq_true_iff.mp formed
      have tail := compact_items_spelled next rest (compact_spelled next both.1) both.2
      have joined := SpellsItems.more item _ _ [] [] _ spelled blank_none blank_none tail
      simpa [compactItems] using joined

theorem compact_members_spelled (key : Text) (value : Json) (rest : List (Text × Json))
    (spelled : Spells value value.compact) (formed : areSpelledMembers rest = true) :
    SpellsMembers ((key, value) :: rest) (compactMembers ((key, value) :: rest) ++ ['}']) := by
  have first := SpellsMember.named key value [] _ blank_none spelled
  cases rest with
  | nil => simpa [compactMembers] using SpellsMembers.last _ _ [] first blank_none
  | cons next rest =>
      obtain ⟨name, other⟩ := next
      have both := Bool.and_eq_true_iff.mp formed
      have tail := compact_members_spelled name other rest (compact_spelled other both.1) both.2
      have joined := SpellsMembers.more _ _ _ [] [] _ first blank_none blank_none tail
      simpa [compactMembers] using joined
end

-- What stands behind the first item is carried to the closing bracket.
mutual
theorem pretty_spelled (json : Json) (depth : Nat) (formed : json.isSpelled = true) :
    Spells json (json.prettyAt depth) := by
  cases json with
  | null => exact .null
  | bool value => cases value with | true => exact .yes | false => exact .no
  | number value => exact .number value
  | string value => exact .string value
  | illFormed => cases formed
  | array items =>
      cases items with
      | nil => exact .noItems [] blank_none
      | cons item rest =>
          have both := Bool.and_eq_true_iff.mp formed
          have inside := pretty_items_spelled item rest (depth + 1) (newLine depth) _
            (pretty_spelled item (depth + 1) both.1) (blank_line depth) both.2
          have whole := Spells.array (newLine (depth + 1)) _ _ (blank_line _) inside
          simpa [prettyAt] using whole
  | object members =>
      cases members with
      | nil => exact .noMembers [] blank_none
      | cons entry rest =>
          obtain ⟨key, value⟩ := entry
          have both := Bool.and_eq_true_iff.mp formed
          have first := SpellsMember.named key value [' '] _ blank_space (pretty_spelled value (depth + 1) both.1)
          have inside := pretty_members_spelled _ rest (depth + 1) (newLine depth) _ first (blank_line depth) both.2
          have whole := Spells.object (newLine (depth + 1)) _ _ (blank_line _) inside
          simpa [prettyAt] using whole

theorem pretty_items_spelled (item : Json) (rest : List Json) (depth : Nat) (gap t : Text) (spelled : Spells item t)
    (blank : Blank gap) (formed : areSpelledItems rest = true) :
    SpellsItems (item :: rest) (t ++ (prettyItems depth rest ++ (gap ++ [']']))) := by
  cases rest with
  | nil => exact .last item t gap spelled blank
  | cons next rest =>
      have both := Bool.and_eq_true_iff.mp formed
      have tail := pretty_items_spelled next rest depth gap _ (pretty_spelled next depth both.1) blank both.2
      have joined := SpellsItems.more item _ t [] (newLine depth) _ spelled blank_none (blank_line depth) tail
      simpa [prettyItems] using joined

theorem pretty_members_spelled (entry : Text × Json) (rest : List (Text × Json)) (depth : Nat) (gap t : Text)
    (spelled : SpellsMember entry t) (blank : Blank gap) (formed : areSpelledMembers rest = true) :
    SpellsMembers (entry :: rest) (t ++ (prettyMembers depth rest ++ (gap ++ ['}']))) := by
  cases rest with
  | nil => exact .last entry t gap spelled blank
  | cons next rest =>
      obtain ⟨key, value⟩ := next
      have both := Bool.and_eq_true_iff.mp formed
      have first := SpellsMember.named key value [' '] _ blank_space (pretty_spelled value depth both.1)
      have tail := pretty_members_spelled _ rest depth gap _ first blank both.2
      have joined := SpellsMembers.more entry _ t [] (newLine depth) _ spelled blank_none (blank_line depth) tail
      simpa [prettyMembers] using joined
end

theorem read_compact (json : Json) (formed : json.isSpelled = true) : read? json.compact = some json :=
  read_spelled json json.compact (compact_spelled json formed)

theorem read_pretty (json : Json) (formed : json.isSpelled = true) : read? json.pretty = some json :=
  read_spelled json json.pretty (pretty_spelled json 0 formed)

end Interpolation.Json
