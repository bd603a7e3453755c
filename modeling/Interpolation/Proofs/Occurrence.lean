import Interpolation.Text.Basic

set_option autoImplicit false

namespace Interpolation.Text

theorem bytes_zero_iff (t : Text) : bytes t = 0 ↔ t = [] := by
  cases t with
  | nil => simp [bytes]
  | cons c rest =>
      have wide := c.utf8Size_pos
      simp [bytes]
      omega

theorem cut_at_bytes (left right : Text) : cutAt? (bytes left) (left ++ right) = some (left, right) :=
  (cut_at_some_iff _ _ _ _).mpr ⟨rfl, rfl⟩

theorem up_to_bytes (left right : Text) : upTo (bytes left) (left ++ right) = left := by
  simp [upTo, cut_at_bytes]

theorem onward_bytes (left right : Text) : onward (bytes left) (left ++ right) = right := by
  simp [onward, cut_at_bytes]

theorem between_bytes (left middle right : Text) :
    between (bytes left) (bytes left + bytes middle) (left ++ (middle ++ right)) = middle := by
  have upper := cut_at_bytes (left ++ middle) right
  rw [List.append_assoc, bytes_append] at upper
  simp [between, upper, cut_at_bytes]

def IsBoundary (position : Nat) (t : Text) : Prop := ∃ left right, t = left ++ right ∧ bytes left = position

theorem is_boundary_iff (position : Nat) (t : Text) : IsBoundary position t ↔ (cutAt? position t).isSome = true := by
  constructor
  · rintro ⟨left, right, eq, size⟩
    rw [(cut_at_some_iff position t left right).mpr ⟨eq, size⟩]
    rfl
  · intro cuts
    obtain ⟨⟨left, right⟩, found⟩ := Option.isSome_iff_exists.mp cuts
    exact ⟨left, right, (cut_at_some_iff position t left right).mp found⟩

instance (position : Nat) (t : Text) : Decidable (IsBoundary position t) :=
  decidable_of_iff _ (is_boundary_iff position t).symm

theorem bytes_prefix (a b : Text) (shorter : a <+: b) : bytes a ≤ bytes b := by
  obtain ⟨rest, rfl⟩ := shorter
  simp [bytes_append]

theorem prefix_of_bytes (a b t : Text) (first : a <+: t) (second : b <+: t) (size : bytes a ≤ bytes b) : a <+: b := by
  rcases List.prefix_or_prefix_of_prefix first second with shorter | ⟨rest, rfl⟩
  · exact shorter
  · rw [bytes_append] at size
    obtain rfl : rest = [] := (bytes_zero_iff rest).mp (by omega)
    simp

theorem after_mark (mark rest : Text) : after? mark (mark ++ rest) = some rest :=
  (after_some_iff mark _ rest).mpr rfl

theorem starts_with_iff (mark t : Text) : startsWith mark t = true ↔ mark <+: t := by
  rw [startsWith, Option.isSome_iff_exists]
  constructor
  · rintro ⟨rest, found⟩
    exact ⟨rest, ((after_some_iff mark t rest).mp found).symm⟩
  · rintro ⟨rest, rfl⟩
    exact ⟨rest, after_mark mark rest⟩

theorem cut_first (mark t left right a b : Text) (found : cut? mark t = some (left, right))
    (other : t = a ++ (mark ++ b)) : left.length ≤ a.length := by
  induction t generalizing left a with
  | nil => simp [cut?] at found
  | cons c rest ih =>
      cases here : after? mark (c :: rest) with
      | some tail =>
          simp only [cut?, here, Option.some.injEq, Prod.mk.injEq] at found
          simp [← found.1]
      | none =>
          simp only [cut?, here, Option.map_eq_some_iff, withFirst, Prod.mk.injEq, Prod.exists] at found
          obtain ⟨l, r, later, rfl, rfl⟩ := found
          cases a with
          | nil =>
              rw [other, List.nil_append, after_mark] at here
              cases here
          | cons d a =>
              have shorter := ih l a later (List.cons.inj other).2
              simpa using shorter

theorem cut_none_iff (mark t : Text) (filled : mark ≠ []) : cut? mark t = none ↔ ¬ mark <:+: t := by
  induction t with
  | nil => simp [cut?, filled]
  | cons c rest ih =>
      rw [List.infix_cons_iff, ← starts_with_iff, startsWith]
      cases here : after? mark (c :: rest) with
      | some tail => simp [cut?, here]
      | none => simp [cut?, here, ih]

theorem cut_some_iff (mark t left right : Text) (filled : mark ≠ []) :
    cut? mark t = some (left, right) ↔
      t = left ++ (mark ++ right) ∧ ∀ a b, t = a ++ (mark ++ b) → left.length ≤ a.length := by
  constructor
  · intro found
    exact ⟨by simpa using cut_joins mark t left right found, fun a b => cut_first mark t left right a b found⟩
  · rintro ⟨joined, first⟩
    have present : mark <:+: t := ⟨left, right, by simp [joined]⟩
    cases found : cut? mark t with
    | none => exact absurd present ((cut_none_iff mark t filled).mp found)
    | some cut =>
        obtain ⟨l, r⟩ := cut
        have again : t = l ++ (mark ++ r) := by simpa using cut_joins mark t l r found
        have size : l.length = left.length := by
          have below := cut_first mark t l r left right found joined
          have above := first l r again
          omega
        obtain ⟨sameLeft, rest⟩ := List.append_inj (again.symm.trans joined) size
        simp [sameLeft, List.append_cancel_left rest]

theorem cut_before (mark before after : Text) (filled : mark ≠ []) :
    ∃ left passed skipped, cut? mark (before ++ (mark ++ after)) = some (left, skipped ++ after) ∧
      before = left ++ passed ∧ passed ++ mark = mark ++ skipped := by
  have present : mark <:+: before ++ (mark ++ after) := List.infix_append' before mark after
  cases found : cut? mark (before ++ (mark ++ after)) with
  | none => exact absurd present ((cut_none_iff _ _ filled).mp found)
  | some cut =>
      obtain ⟨left, tail⟩ := cut
      obtain ⟨joined, first⟩ := (cut_some_iff _ _ _ _ filled).mp found
      obtain ⟨passed, rfl⟩ := List.prefix_of_prefix_length_le ⟨mark ++ tail, joined.symm⟩
        (List.prefix_append before (mark ++ after)) (first before after rfl)
      rw [List.append_assoc] at joined
      have rest : (passed ++ mark) ++ after = mark ++ tail := by simpa using List.append_cancel_left joined
      rcases List.append_eq_append_iff.mp rest with ⟨more, marks, rfl⟩ | ⟨skipped, marks, rfl⟩
      · -- The mark found ends behind the known one, so both are the same.
        have size := congrArg List.length marks
        simp only [List.length_append] at size
        obtain rfl : passed = [] := List.eq_nil_of_length_eq_zero (by omega)
        obtain rfl : more = [] := List.eq_nil_of_length_eq_zero (by omega)
        exact ⟨left, [], [], rfl, rfl, by simp⟩
      · exact ⟨left, passed, skipped, rfl, rfl, marks⟩

theorem contains_iff (mark t : Text) (filled : mark ≠ []) : contains mark t = true ↔ mark <:+: t := by
  rw [contains, Option.isSome_iff_ne_none, ne_eq, cut_none_iff mark t filled, Classical.not_not]

theorem contains_false_iff (mark t : Text) (filled : mark ≠ []) : contains mark t = false ↔ ¬ mark <:+: t := by
  rw [← contains_iff mark t filled, Bool.not_eq_true]

theorem contains_char_iff (c : Char) (t : Text) : contains [c] t = true ↔ c ∈ t := by
  rw [contains_iff [c] t (by simp)]
  constructor
  · rintro ⟨a, b, rfl⟩
    simp
  · intro member
    obtain ⟨a, b, rfl⟩ := List.append_of_mem member
    exact ⟨a, b, by simp⟩

theorem cut_unshared (word gap after : Text) (c : Char) (absent : c ∉ gap) (present : c ∈ word) :
    cut? word (gap ++ (word ++ after)) = some (gap, after) := by
  refine (cut_some_iff word _ gap after (List.ne_nil_of_mem present)).mpr ⟨rfl, ?_⟩
  intro a b other
  -- Both occurrences put the first such character of the text at a place of their own.
  have first := congrArg (List.idxOf c) other
  rw [List.idxOf_append, if_neg absent, List.idxOf_append, if_pos present, List.idxOf_append] at first
  by_cases inside : c ∈ a
  · have early := List.idxOf_lt_length_of_mem inside
    rw [if_pos inside] at first
    omega
  · rw [if_neg inside, List.idxOf_append, if_pos present] at first
    omega

theorem cut_last_none_iff (mark t : Text) (filled : mark ≠ []) : cutLast? mark t = none ↔ ¬ mark <:+: t := by
  induction t with
  | nil => simp [cutLast?, filled]
  | cons c rest ih =>
      rw [List.infix_cons_iff, ← starts_with_iff, startsWith]
      cases later : cutLast? mark rest with
      | some cut =>
          have present : mark <:+: rest := Classical.not_not.mp (mt ih.mpr (by simp [later]))
          simp [cutLast?, later, present]
      | none =>
          have absent := ih.mp later
          cases here : after? mark (c :: rest) <;> simp [cutLast?, later, here, absent]

theorem cut_last (mark t left right a b : Text) (filled : mark ≠ []) (found : cutLast? mark t = some (left, right))
    (other : t = a ++ (mark ++ b)) : a.length ≤ left.length := by
  induction t generalizing left a with
  | nil => simp [cutLast?] at found
  | cons c rest ih =>
      cases a with
      | nil => simp
      | cons d a =>
          have inside : rest = a ++ (mark ++ b) := (List.cons.inj other).2
          cases later : cutLast? mark rest with
          | none => exact absurd ⟨a, b, by simp [inside]⟩ ((cut_last_none_iff mark rest filled).mp later)
          | some cut =>
              simp only [cutLast?, later, Option.some.injEq, withFirst, Prod.mk.injEq] at found
              obtain ⟨rfl, rfl⟩ := found
              have shorter := ih cut.1 a later inside
              simpa using shorter

theorem cut_last_some_iff (mark t left right : Text) (filled : mark ≠ []) :
    cutLast? mark t = some (left, right) ↔
      t = left ++ (mark ++ right) ∧ ∀ a b, t = a ++ (mark ++ b) → a.length ≤ left.length := by
  constructor
  · intro found
    exact ⟨by simpa using cut_last_joins mark t left right found,
      fun a b => cut_last mark t left right a b filled found⟩
  · rintro ⟨joined, last⟩
    have present : mark <:+: t := ⟨left, right, by simp [joined]⟩
    cases found : cutLast? mark t with
    | none => exact absurd present ((cut_last_none_iff mark t filled).mp found)
    | some cut =>
        obtain ⟨l, r⟩ := cut
        have again : t = l ++ (mark ++ r) := by simpa using cut_last_joins mark t l r found
        have size : l.length = left.length := by
          have above := cut_last mark t l r left right filled found joined
          have below := last l r again
          omega
        obtain ⟨sameLeft, rest⟩ := List.append_inj (again.symm.trans joined) size
        simp [sameLeft, List.append_cancel_left rest]

theorem erase_first_absent (mark t : Text) (filled : mark ≠ []) (absent : ¬ mark <:+: t) : eraseFirst mark t = t := by
  rw [eraseFirst, (cut_none_iff mark t filled).mpr absent]

theorem erase_last_absent (mark t : Text) (filled : mark ≠ []) (absent : ¬ mark <:+: t) : eraseLast mark t = t := by
  rw [eraseLast, (cut_last_none_iff mark t filled).mpr absent]

theorem erase_first_at (mark left right : Text) (filled : mark ≠ [])
    (first : ∀ a b, left ++ (mark ++ right) = a ++ (mark ++ b) → left.length ≤ a.length) :
    eraseFirst mark (left ++ (mark ++ right)) = left ++ right := by
  rw [eraseFirst, (cut_some_iff mark _ left right filled).mpr ⟨rfl, first⟩]

theorem erase_last_at (mark left right : Text) (filled : mark ≠ [])
    (last : ∀ a b, left ++ (mark ++ right) = a ++ (mark ++ b) → a.length ≤ left.length) :
    eraseLast mark (left ++ (mark ++ right)) = left ++ right := by
  rw [eraseLast, (cut_last_some_iff mark _ left right filled).mpr ⟨rfl, last⟩]

theorem erase_first_cases (mark t : Text) :
    eraseFirst mark t = t ∨ ∃ left right, t = left ++ (mark ++ right) ∧ eraseFirst mark t = left ++ right := by
  cases found : cut? mark t with
  | none => exact .inl (by rw [eraseFirst, found])
  | some cut => exact .inr ⟨cut.1, cut.2, by simpa using cut_joins mark t _ _ found, by rw [eraseFirst, found]⟩

theorem erase_last_cases (mark t : Text) :
    eraseLast mark t = t ∨ ∃ left right, t = left ++ (mark ++ right) ∧ eraseLast mark t = left ++ right := by
  cases found : cutLast? mark t with
  | none => exact .inl (by rw [eraseLast, found])
  | some cut => exact .inr ⟨cut.1, cut.2, by simpa using cut_last_joins mark t _ _ found, by rw [eraseLast, found]⟩

theorem erase_first_length (mark t : Text) : (eraseFirst mark t).length ≤ t.length := by
  rcases erase_first_cases mark t with same | ⟨left, right, joined, erased⟩
  · exact Nat.le_of_eq (congrArg List.length same)
  · rw [erased, joined]
    simp only [List.length_append]
    omega

theorem erase_last_length (mark t : Text) : (eraseLast mark t).length ≤ t.length := by
  rcases erase_last_cases mark t with same | ⟨left, right, joined, erased⟩
  · exact Nat.le_of_eq (congrArg List.length same)
  · rw [erased, joined]
    simp only [List.length_append]
    omega

theorem erase_first_shorter (mark t : Text) (filled : mark ≠ []) (present : mark <:+: t) :
    (eraseFirst mark t).length < t.length := by
  have positive := List.length_pos_iff.mpr filled
  cases found : cut? mark t with
  | none => exact absurd present ((cut_none_iff mark t filled).mp found)
  | some cut =>
      have joined := congrArg List.length (cut_joins mark t _ _ found)
      simp only [List.length_append] at joined
      simp only [eraseFirst, found, List.length_append]
      omega

theorem erase_last_nil_iff (mark t : Text) (filled : mark ≠ []) : eraseLast mark t = [] ↔ t = [] ∨ t = mark := by
  constructor
  · intro empty
    rcases erase_last_cases mark t with same | ⟨left, right, joined, erased⟩
    · exact .inl (same.symm.trans empty)
    · rw [erased, List.append_eq_nil_iff] at empty
      exact .inr (by simp [joined, empty.1, empty.2])
  · rintro (rfl | rfl)
    · exact erase_last_absent mark [] filled (by simp [filled])
    · have last (a b : Text) (eq : [] ++ (t ++ []) = a ++ (t ++ b)) : a.length ≤ List.length ([] : Text) := by
        have size := congrArg List.length eq
        simp only [List.length_append, List.length_nil] at size ⊢
        omega
      simpa using erase_last_at t [] [] filled last

def FirstErased (mark t rest : Text) : Prop :=
  (¬ mark <:+: t ∧ rest = t) ∨ ∃ left right, t = left ++ (mark ++ right) ∧
    (∀ a b, t = a ++ (mark ++ b) → left.length ≤ a.length) ∧ rest = left ++ right

def LastErased (mark t rest : Text) : Prop :=
  (¬ mark <:+: t ∧ rest = t) ∨ ∃ left right, t = left ++ (mark ++ right) ∧
    (∀ a b, t = a ++ (mark ++ b) → a.length ≤ left.length) ∧ rest = left ++ right

theorem first_erased (mark t : Text) (filled : mark ≠ []) : FirstErased mark t (eraseFirst mark t) := by
  cases found : cut? mark t with
  | none =>
      have absent := (cut_none_iff mark t filled).mp found
      exact .inl ⟨absent, erase_first_absent mark t filled absent⟩
  | some cut =>
      obtain ⟨joined, first⟩ := (cut_some_iff mark t cut.1 cut.2 filled).mp found
      exact .inr ⟨cut.1, cut.2, joined, first, by rw [eraseFirst, found]⟩

theorem last_erased (mark t : Text) (filled : mark ≠ []) : LastErased mark t (eraseLast mark t) := by
  cases found : cutLast? mark t with
  | none =>
      have absent := (cut_last_none_iff mark t filled).mp found
      exact .inl ⟨absent, erase_last_absent mark t filled absent⟩
  | some cut =>
      obtain ⟨joined, last⟩ := (cut_last_some_iff mark t cut.1 cut.2 filled).mp found
      exact .inr ⟨cut.1, cut.2, joined, last, by rw [eraseLast, found]⟩

theorem infix_behind (c : Char) (hooks front t : Text) (absent : c ∉ front)
    (present : (c :: hooks) <:+: front ++ t) : (c :: hooks) <:+: t := by
  rcases List.infix_append_iff_ne_nil.mp present with inside | later | ⟨left, right, filled, _, eq, ends, _⟩
  · exact absurd (inside.subset List.mem_cons_self) absent
  · exact later
  · cases left with
    | nil => exact absurd rfl filled
    | cons d left =>
        obtain rfl : c = d := (List.cons.inj eq).1
        exact absurd (ends.subset List.mem_cons_self) absent

theorem mark_in_front (mark more gap word after : Text) (filled : word ≠ []) (apart : ∀ c ∈ mark, c ∉ word)
    (same : mark ++ more = gap ++ (word ++ after)) : ∃ rest, gap = mark ++ rest := by
  rcases List.append_eq_append_iff.mp same with ⟨rest, eq, _⟩ | ⟨overlap, eq, tail⟩
  · exact ⟨rest, eq⟩
  · cases overlap with
    | nil => exact ⟨[], by simpa using eq.symm⟩
    | cons c overlap =>
        cases word with
        | nil => exact absurd rfl filled
        | cons d word =>
            obtain rfl : d = c := (List.cons.inj tail).1
            exact absurd List.mem_cons_self (apart d (by simp [eq]))

theorem unbordered_last (c : Char) (hooks left right a b : Text) (unique : c ∉ hooks)
    (absent : ¬ (c :: hooks) <:+: right) (other : left ++ ((c :: hooks) ++ right) = a ++ ((c :: hooks) ++ b)) :
    a.length ≤ left.length := by
  rcases List.append_eq_append_iff.mp other with ⟨passed, rfl, tail⟩ | ⟨passed, rfl, _⟩
  · cases passed with
    | nil => simp
    | cons d passed =>
        have inside : hooks ++ right = passed ++ (c :: hooks ++ b) := (List.cons.inj tail).2
        rcases List.append_eq_append_iff.mp inside with ⟨more, _, later⟩ | ⟨more, split, later⟩
        · exact absurd ⟨more, b, by rw [later, List.append_assoc]⟩ absent
        · cases more with
          | nil => exact absurd ⟨[], b, by simpa using later⟩ absent
          | cons e more =>
              obtain rfl : c = e := (List.cons.inj later).1
              exact absurd (by simp [split]) unique
  · simp

theorem occurrence_inside (word front back a b : Text) (other : front ++ back = a ++ (word ++ b))
    (inside : a.length + word.length ≤ front.length) : ∃ rest, front = a ++ (word ++ rest) ∧ b = rest ++ back := by
  rw [← List.append_assoc] at other
  have shorter : (a ++ word).length ≤ front.length := by rwa [List.length_append]
  obtain ⟨rest, rfl⟩ := List.prefix_of_prefix_length_le ⟨b, other.symm⟩ (List.prefix_append front back) shorter
  rw [List.append_assoc] at other
  exact ⟨rest, List.append_assoc a word rest, (List.append_cancel_left other).symm⟩

theorem occurrence_apart (d : Char) (word front back a b : Text) (filled : word ≠ []) (foreign : d ∉ word)
    (other : front ++ d :: back = a ++ (word ++ b)) :
    (∃ rest, front = a ++ (word ++ rest) ∧ b = rest ++ d :: back) ∨
      ∃ rest, a = front ++ d :: rest ∧ back = rest ++ (word ++ b) := by
  cases List.append_eq_append_iff.mp other with
  | inl behind =>
      obtain ⟨passed, rfl, rest⟩ := behind
      cases passed with
      | nil =>
          obtain ⟨c, hooks, rfl⟩ := List.exists_cons_of_ne_nil filled
          obtain rfl : d = c := (List.cons.inj rest).1
          exact absurd List.mem_cons_self foreign
      | cons c passed =>
          obtain ⟨rfl, tail⟩ := List.cons.inj rest
          exact .inr ⟨passed, rfl, tail⟩
  | inr before =>
      obtain ⟨overlap, rfl, meets⟩ := before
      cases List.append_eq_append_iff.mp meets with
      | inl short =>
          obtain ⟨rest, rfl, eq⟩ := short
          exact .inl ⟨rest, rfl, eq⟩
      | inr long =>
          obtain ⟨tail, rfl, eq⟩ := long
          cases tail with
          | nil => exact .inl ⟨[], by simp, by simpa using eq.symm⟩
          | cons c tail =>
              obtain rfl : d = c := (List.cons.inj eq).1
              exact absurd (by simp) foreign

def OccursAt (word : Text) (position : Nat) (t : Text) : Prop :=
  ∃ left right, t = left ++ (word ++ right) ∧ bytes left = position

structure FirstFrom (origin : Nat) (word t : Text) (position : Nat) : Prop where
  behind : origin ≤ position
  occurs : OccursAt word position t
  first : ∀ other, origin ≤ other → OccursAt word other t → position ≤ other

theorem occurs_behind (word done rest : Text) (position : Nat) :
    OccursAt word (bytes done + position) (done ++ rest) ↔ OccursAt word position rest := by
  constructor
  · rintro ⟨left, right, eq, size⟩
    obtain ⟨inner, rfl⟩ := prefix_of_bytes done left _ (List.prefix_append done rest) ⟨_, eq.symm⟩ (by omega)
    rw [bytes_append] at size
    rw [List.append_assoc] at eq
    exact ⟨inner, right, List.append_cancel_left eq, by omega⟩
  · rintro ⟨left, right, rfl, rfl⟩
    exact ⟨done ++ left, right, by simp, bytes_append done left⟩

theorem offset_first (word t : Text) (distance : Nat) (filled : word ≠ []) (found : offset? word t = some distance) :
    OccursAt word distance t ∧ ∀ other, OccursAt word other t → distance ≤ other := by
  obtain ⟨⟨left, right⟩, cut, rfl⟩ := Option.map_eq_some_iff.mp found
  obtain ⟨joined, first⟩ := (cut_some_iff word t left right filled).mp cut
  refine ⟨⟨left, right, joined, rfl⟩, ?_⟩
  rintro other ⟨a, b, eq, rfl⟩
  exact bytes_prefix left a (List.prefix_of_prefix_length_le ⟨_, joined.symm⟩ ⟨_, eq.symm⟩ (first a b eq))

end Interpolation.Text
