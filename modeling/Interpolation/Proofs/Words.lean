import Interpolation.Comprehension
import Interpolation.Proofs.Scanning

set_option autoImplicit false

/- Words that stand alone. The search for one skips the rest of a word it has turned down; since the first character
   of a keyword does not come back inside it, no occurrence begins in what is skipped, and the search finds the first
   word that stands alone whenever there is one. -/
namespace Interpolation

open Text

def Unbordered : Text → Prop
  | [] => False
  | c :: hooks => c ∉ hooks

theorem for_unbordered : Unbordered "for".toList := by simp [Unbordered]

theorem in_unbordered : Unbordered "in".toList := by simp [Unbordered]

-- No word character beside a place: before is the character before the text, left and right are the text around.
structure Alone (before : Option Char) (left right : Text) : Prop where
  front : isBound (left.getLast?.or before) = true
  back : isBound right.head? = true

theorem alone_iff (before : Option Char) (left right : Text) :
    Alone before left right ↔ isBound (left.getLast?.or before) = true ∧ isBound right.head? = true :=
  ⟨fun alone => ⟨alone.front, alone.back⟩, fun sides => ⟨sides.1, sides.2⟩⟩

instance (before : Option Char) (left right : Text) : Decidable (Alone before left right) :=
  decidable_of_iff _ (alone_iff before left right).symm

theorem alone_append (before : Option Char) (passed left right : Text) :
    Alone before (passed ++ left) right ↔ Alone (passed.getLast?.or before) left right := by
  rw [alone_iff, alone_iff, List.getLast?_append, Option.or_assoc]

theorem alone_cons (before : Option Char) (c : Char) (left right : Text) :
    Alone before (c :: left) right ↔ Alone (some c) left right := alone_append before [c] left right

theorem alone_extended (before : Option Char) (left right more : Text) (filled : right ≠ []) :
    Alone before left (right ++ more) ↔ Alone before left right := by
  rw [alone_iff, alone_iff]
  cases right with
  | nil => exact absurd rfl filled
  | cons c right => rfl

theorem alone_bound (c : Char) (left right : Text) (bound : isBound (some c) = true) :
    Alone (some c) left right ↔ Alone none left right := by
  rw [alone_iff, alone_iff]
  cases left.getLast? with
  | none =>
      have ends : isBound none = true := rfl
      simp only [Option.none_or, bound, ends]
  | some d => simp

theorem alone_closed (before : Option Char) (c : Char) (left right more : Text)
    (alone : Alone before left (right ++ c :: more)) : Alone before left right := by
  cases right with
  | nil => exact ⟨alone.front, rfl⟩
  | cons d right => exact ⟨alone.front, alone.back⟩

theorem cut_word_alone (word : Text) (passing : Nat) (before : Option Char) (t left right : Text)
    (found : cutWord? word passing before t = some (left, right)) : Alone before left right := by
  induction t generalizing passing before left with
  | nil => simp [cutWord?] at found
  | cons c rest ih =>
      have skip (n : Nat) (later : (cutWord? word n (some c) rest).map (withFirst c) = some (left, right)) :
          Alone before left right := by
        obtain ⟨⟨l, r⟩, inner, eq⟩ := Option.map_eq_some_iff.mp later
        obtain ⟨rfl, rfl⟩ := Prod.mk.inj eq
        exact (alone_cons before c l r).mpr (ih n (some c) l inner)
      cases passing with
      | succ n => exact skip n (by simpa only [cutWord?] using found)
      | zero =>
          cases here : after? word (c :: rest) with
          | none => exact skip 0 (by simpa only [cutWord?, here] using found)
          | some tail =>
              by_cases bounded : (isBound before && isBound tail.head?) = true
              · simp only [cutWord?, here, bounded, if_true, Option.some.injEq, Prod.mk.injEq] at found
                obtain ⟨rfl, rfl⟩ := found
                obtain ⟨front, back⟩ := Bool.and_eq_true_iff.mp bounded
                exact ⟨front, back⟩
              · exact skip _ (by simpa only [cutWord?, here, if_neg bounded] using found)

theorem unbordered_filled (word : Text) (unbordered : Unbordered word) : word ≠ [] := by
  rintro rfl
  exact unbordered

theorem unbordered_apart (word tail a b : Text) (unbordered : Unbordered word) (filled : a ≠ [])
    (other : word ++ tail = a ++ (word ++ b)) : word.length ≤ a.length := by
  cases List.append_eq_append_iff.mp other with
  | inl behind =>
      obtain ⟨passed, rfl, _⟩ := behind
      simp
  | inr before =>
      obtain ⟨overlap, eq, rest⟩ := before
      cases overlap with
      | nil => simp [eq]
      | cons c overlap =>
          cases a with
          | nil => exact absurd rfl filled
          | cons d a =>
              -- The word begins with d, and again where the second occurrence begins.
              subst eq
              obtain rfl : d = c := (List.cons.inj rest).1
              exact absurd (by simp) unbordered

theorem cut_word_reaches (word : Text) (passing : Nat) (before : Option Char) (t a b : Text)
    (unbordered : Unbordered word) (other : t = a ++ (word ++ b)) (alone : Alone before a b)
    (behind : passing ≤ a.length) :
    ∃ left right, cutWord? word passing before t = some (left, right) ∧ left.length ≤ a.length := by
  induction t generalizing passing before a with
  | nil => simp [unbordered_filled word unbordered] at other
  | cons c rest ih =>
      -- One character further the occurrence is still ahead, unless it begins here.
      have further (n : Nat) (d : Char) (inner : Text) (eq : a = d :: inner) (ahead : n ≤ inner.length) :
          ∃ left right, (cutWord? word n (some c) rest).map (withFirst c) = some (left, right) ∧
            left.length ≤ a.length := by
        subst eq
        obtain ⟨rfl, later⟩ := List.cons.inj other
        obtain ⟨left, right, found, near⟩ := ih n (some c) inner later ((alone_cons before c inner b).mp alone) ahead
        refine ⟨c :: left, right, by rw [found]; rfl, ?_⟩
        rw [List.length_cons, List.length_cons]
        omega
      cases passing with
      | succ n =>
          cases a with
          | nil => simp at behind
          | cons d inner =>
              rw [cutWord?]
              exact further n d inner rfl (by simpa using behind)
      | zero =>
          cases here : after? word (c :: rest) with
          | none =>
              cases a with
              | nil =>
                  rw [other, List.nil_append, after_mark] at here
                  cases here
              | cons d inner =>
                  simp only [cutWord?, here]
                  exact further 0 d inner rfl (Nat.zero_le _)
          | some tail =>
              by_cases bounded : (isBound before && isBound tail.head?) = true
              · exact ⟨[], tail, by simp only [cutWord?, here, bounded, if_true], Nat.zero_le _⟩
              · have start := (after_some_iff _ _ _).mp here
                cases a with
                | nil =>
                    obtain rfl : tail = b := List.append_cancel_left (start.symm.trans other)
                    exact absurd (Bool.and_eq_true_iff.mpr ⟨alone.front, alone.back⟩) bounded
                | cons d inner =>
                    have apart :=
                      unbordered_apart word tail (d :: inner) b unbordered (by simp) (start.symm.trans other)
                    rw [List.length_cons] at apart
                    simp only [cutWord?, here, if_neg bounded]
                    exact further _ d inner rfl (by omega)

theorem cut_word_some_iff (word : Text) (before : Option Char) (t left right : Text)
    (unbordered : Unbordered word) :
    cutWord? word 0 before t = some (left, right) ↔
      t = left ++ (word ++ right) ∧ Alone before left right ∧
        ∀ a b, t = a ++ (word ++ b) → Alone before a b → left.length ≤ a.length := by
  constructor
  · intro found
    refine ⟨cut_word_joins _ _ _ _ _ _ found, cut_word_alone _ _ _ _ _ _ found, ?_⟩
    intro a b other alone
    obtain ⟨l, r, again, near⟩ := cut_word_reaches word 0 before t a b unbordered other alone (Nat.zero_le _)
    obtain ⟨rfl, rfl⟩ := Prod.mk.inj (Option.some.inj (found.symm.trans again))
    exact near
  · intro spec
    obtain ⟨joined, alone, first⟩ := spec
    obtain ⟨l, r, found, near⟩ := cut_word_reaches word 0 before t left right unbordered joined alone (Nat.zero_le _)
    have again := cut_word_joins _ _ _ _ _ _ found
    have far := first l r again (cut_word_alone _ _ _ _ _ _ found)
    obtain ⟨rfl, rest⟩ := List.append_inj (again.symm.trans joined) (Nat.le_antisymm near far)
    rw [found, List.append_cancel_left rest]

theorem cut_word_none_iff (word : Text) (before : Option Char) (t : Text) (unbordered : Unbordered word) :
    cutWord? word 0 before t = none ↔ ∀ a b, t = a ++ (word ++ b) → ¬ Alone before a b := by
  constructor
  · intro absent a b other alone
    obtain ⟨l, r, found, _⟩ := cut_word_reaches word 0 before t a b unbordered other alone (Nat.zero_le _)
    rw [absent] at found
    cases found
  · intro absent
    cases found : cutWord? word 0 before t with
    | none => rfl
    | some cut =>
        exact absurd (cut_word_alone _ _ _ _ _ _ found) (absent cut.1 cut.2 (cut_word_joins _ _ _ _ _ _ found))

theorem alone_seam (before : Option Char) (t : Text) (d : Char) (left right : Text) (bound : isBound (some d) = true) :
    Alone before (t ++ d :: left) right ↔ Alone none left right := by
  have passed : t ++ d :: left = (t ++ [d]) ++ left := by simp
  rw [passed, alone_append, List.getLast?_concat, Option.some_or, alone_bound d left right bound]

theorem cut_word_append (word : Text) (before : Option Char) (t more left right : Text) (unbordered : Unbordered word)
    (filled : right ≠ []) (found : cutWord? word 0 before t = some (left, right)) :
    cutWord? word 0 before (t ++ more) = some (left, right ++ more) := by
  obtain ⟨joined, alone, first⟩ := (cut_word_some_iff word before t left right unbordered).mp found
  refine (cut_word_some_iff word before _ left _ unbordered).mpr ⟨by simp [joined], ?_, ?_⟩
  · exact (alone_extended before left right more filled).mpr alone
  · intro a b other stands
    by_cases near : left.length ≤ a.length
    · exact near
    · -- An earlier word would end inside the shorter text, and stand alone there.
      have size := congrArg List.length joined
      simp only [List.length_append] at size
      have positive := List.length_pos_iff.mpr filled
      obtain ⟨inner, inside, rfl⟩ := occurrence_inside word t more a b other (by omega)
      have innerSize := congrArg List.length inside
      simp only [List.length_append] at innerSize
      have innerFilled : inner ≠ [] := List.ne_nil_of_length_pos (by omega)
      exact absurd (first a inner inside ((alone_extended before a inner more innerFilled).mp stands)) near

theorem cut_word_behind (word : Text) (before : Option Char) (t : Text) (d : Char) (more : Text)
    (unbordered : Unbordered word) (foreign : d ∉ word) (bound : isBound (some d) = true)
    (absent : cutWord? word 0 before t = none) :
    cutWord? word 0 before (t ++ d :: more) =
      (cutWord? word 0 none more).map fun cut => (t ++ d :: cut.1, cut.2) := by
  have missing := (cut_word_none_iff word before t unbordered).mp absent
  have seam (left right : Text) := alone_seam before t d left right bound
  -- A word that stands alone in the whole text does so behind the delimiter.
  have later (a b : Text) (other : t ++ d :: more = a ++ (word ++ b)) (stands : Alone before a b) :
      ∃ inner, a = t ++ d :: inner ∧ more = inner ++ (word ++ b) ∧ Alone none inner b := by
    cases occurrence_apart d word t more a b (unbordered_filled word unbordered) foreign other with
    | inl front =>
        obtain ⟨inner, inside, rfl⟩ := front
        exact absurd (alone_closed before d a inner more stands) (missing a inner inside)
    | inr back =>
        obtain ⟨inner, rfl, inside⟩ := back
        exact ⟨inner, rfl, inside, (seam inner b).mp stands⟩
  cases found : cutWord? word 0 none more with
  | none =>
      refine (cut_word_none_iff word before _ unbordered).mpr ?_
      intro a b other stands
      obtain ⟨inner, _, inside, alone⟩ := later a b other stands
      exact (cut_word_none_iff word none more unbordered).mp found inner b inside alone
  | some cut =>
      obtain ⟨left, right⟩ := cut
      obtain ⟨joined, alone, first⟩ := (cut_word_some_iff word none more left right unbordered).mp found
      refine (cut_word_some_iff word before _ _ _ unbordered).mpr ⟨by simp [joined], (seam left right).mpr alone, ?_⟩
      intro a b other stands
      obtain ⟨inner, rfl, inside, innerAlone⟩ := later a b other stands
      have near := first inner b inside innerAlone
      simp only [List.length_append, List.length_cons]
      omega

def IsComprehension (t : Text) : Prop :=
  ∃ front binders source projection : Text,
    t = front ++ ("for".toList ++ (binders ++ ("in".toList ++ (source ++ ':' :: projection)))) ∧
    Alone none front (binders ++ ("in".toList ++ (source ++ ':' :: projection))) ∧
    Alone none (front ++ ("for".toList ++ binders)) (source ++ ':' :: projection)

theorem alone_behind_for (front binders right : Text) :
    Alone none (front ++ ("for".toList ++ binders)) right ↔ Alone (some 'r') binders right := by
  rw [← List.append_assoc, alone_append, List.getLast?_append]
  rfl

theorem collection_some_iff (t source : Text) :
    collection? t = some source ↔ ∃ beforeFor afterFor beforeIn afterIn rest : Text,
      cutWord? "for".toList 0 none t = some (beforeFor, afterFor) ∧
      cutWord? "in".toList 0 (some 'r') afterFor = some (beforeIn, afterIn) ∧
      cut? [':'] afterIn = some (source, rest) := by
  simp only [collection?, Option.bind_eq_bind, Option.bind_eq_some_iff, Option.pure_def, Option.some.injEq, Prod.exists]
  constructor
  · intro found
    obtain ⟨beforeFor, afterFor, forFound, beforeIn, afterIn, inFound, _, rest, colonFound, rfl⟩ := found
    exact ⟨beforeFor, afterFor, beforeIn, afterIn, rest, forFound, inFound, colonFound⟩
  · intro cuts
    obtain ⟨beforeFor, afterFor, beforeIn, afterIn, rest, forFound, inFound, colonFound⟩ := cuts
    exact ⟨beforeFor, afterFor, forFound, beforeIn, afterIn, inFound, source, rest, colonFound, rfl⟩

theorem collection_narrows_iff (t : Text) : (collection? t).isSome = true ↔ IsComprehension t := by
  constructor
  · intro narrows
    obtain ⟨source, found⟩ := Option.isSome_iff_exists.mp narrows
    obtain ⟨beforeFor, afterFor, beforeIn, afterIn, rest, forFound, inFound, colonFound⟩ :=
      (collection_some_iff t source).mp found
    have colon : afterIn = source ++ ':' :: rest := by simpa using cut_joins _ _ _ _ colonFound
    have inJoins := cut_word_joins _ _ _ _ _ _ inFound
    have forAlone := cut_word_alone _ _ _ _ _ _ forFound
    have inAlone := cut_word_alone _ _ _ _ _ _ inFound
    rw [colon] at inJoins inAlone
    rw [inJoins] at forAlone
    refine ⟨beforeFor, beforeIn, source, rest, ?_, forAlone, (alone_behind_for beforeFor beforeIn _).mpr inAlone⟩
    rw [← inJoins]
    exact cut_word_joins _ _ _ _ _ _ forFound
  · intro comprehension
    obtain ⟨front, binders, source, projection, joined, forAlone, inAlone⟩ := comprehension
    obtain ⟨l, r, forFound, forNear⟩ :=
      cut_word_reaches "for".toList 0 none t front _ for_unbordered joined forAlone (Nat.zero_le _)
    -- The words found stand where the known ones do or before, so what follows these is still ahead.
    have forJoins := cut_word_joins _ _ _ _ _ _ forFound
    obtain ⟨passed, shared, rfl⟩ := occurrence_inside "for".toList (front ++ ("for".toList ++ binders))
      ("in".toList ++ (source ++ ':' :: projection)) l r (by rw [← forJoins, joined]; simp) (by simp; omega)
    rw [shared, alone_behind_for] at inAlone
    obtain ⟨l', r', inFound, inNear⟩ :=
      cut_word_reaches "in".toList 0 (some 'r') _ passed _ in_unbordered rfl inAlone (Nat.zero_le _)
    have inJoins := cut_word_joins _ _ _ _ _ _ inFound
    obtain ⟨skipped, _, rfl⟩ :=
      occurrence_inside "in".toList (passed ++ "in".toList) (source ++ ':' :: projection) l' r'
        (by rw [← inJoins]; simp) (by simp; omega)
    have colon : (cut? [':'] (skipped ++ (source ++ ':' :: projection))).isSome = true :=
      (contains_char_iff ':' _).mpr (by simp)
    obtain ⟨⟨found, rest⟩, colonFound⟩ := Option.isSome_iff_exists.mp colon
    exact Option.isSome_iff_exists.mpr
      ⟨found, (collection_some_iff t found).mpr ⟨l, _, l', _, rest, forFound, inFound, colonFound⟩⟩

theorem collection_kept (t : Text) (plain : ¬ IsComprehension t) : collection t = t := by
  have nothing : collection? t = none := by
    rw [← Option.not_isSome_iff_eq_none, collection_narrows_iff]
    exact plain
  rw [collection, nothing]
  rfl

theorem comprehension_append (t more : Text) (comprehension : IsComprehension t) : IsComprehension (t ++ more) := by
  obtain ⟨front, binders, source, projection, rfl, forAlone, inAlone⟩ := comprehension
  refine ⟨front, binders, source, projection ++ more, by simp, ?_, ?_⟩
  · have longer := (alone_extended none front _ more (by simp)).mpr forAlone
    simpa using longer
  · have longer := (alone_extended none _ _ more (by simp)).mpr inAlone
    simpa using longer

theorem comprehension_behind (t : Text) (d : Char) (more : Text) (bound : isBound (some d) = true)
    (comprehension : IsComprehension more) : IsComprehension (t ++ d :: more) := by
  obtain ⟨front, binders, source, projection, rfl, forAlone, inAlone⟩ := comprehension
  refine ⟨t ++ d :: front, binders, source, projection, by simp, (alone_seam none t d front _ bound).mpr forAlone, ?_⟩
  rwa [alone_behind_for] at inAlone ⊢

theorem collection_append (t more source : Text) (found : collection? t = some source) :
    collection? (t ++ more) = some source := by
  obtain ⟨beforeFor, afterFor, beforeIn, afterIn, rest, forFound, inFound, colonFound⟩ :=
    (collection_some_iff t source).mp found
  have colonJoins : afterIn = source ++ ([':'] ++ rest) := by simpa using cut_joins _ _ _ _ colonFound
  have inJoins := cut_word_joins _ _ _ _ _ _ inFound
  refine (collection_some_iff _ source).mpr
    ⟨beforeFor, afterFor ++ more, beforeIn, afterIn ++ more, rest ++ more, ?_, ?_, ?_⟩
  · exact cut_word_append _ _ _ _ _ _ for_unbordered (by simp [inJoins]) forFound
  · exact cut_word_append _ _ _ _ _ _ in_unbordered (by simp [colonJoins]) inFound
  · obtain ⟨_, first⟩ := (cut_some_iff [':'] afterIn source rest (by simp)).mp colonFound
    refine (cut_some_iff [':'] _ source _ (by simp)).mpr ⟨by simp [colonJoins], ?_⟩
    intro a b other
    by_cases near : source.length ≤ a.length
    · exact near
    · -- An earlier colon would stand inside the shorter text.
      have size := congrArg List.length colonJoins
      simp only [List.length_append, List.length_singleton] at size
      obtain ⟨inner, inside, _⟩ := occurrence_inside [':'] afterIn more a b other
        (by rw [List.length_singleton]; omega)
      exact absurd (first a inner inside) near

theorem collection_behind (t : Text) (d : Char) (more : Text) (foreign : d ∉ "for".toList)
    (bound : isBound (some d) = true)
    (absent : ∀ left right, t = left ++ ("for".toList ++ right) → ¬ Alone none left right) :
    collection? (t ++ d :: more) = collection? more := by
  have missing := (cut_word_none_iff "for".toList none t for_unbordered).mpr absent
  have search := cut_word_behind "for".toList none t d more for_unbordered foreign bound missing
  rw [collection?, collection?, search]
  cases cutWord? "for".toList 0 none more <;> rfl

end Interpolation
