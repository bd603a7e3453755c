import Interpolation.Proofs.Narrowing
import Interpolation.Proofs.Partition
import Interpolation.Proofs.Trimming

set_option autoImplicit false

namespace Interpolation

open Text

namespace Text

def between? (start stop : Nat) (t : Text) : Option Text := do
  let (upper, _) ← cutAt? stop t
  let (_, middle) ← cutAt? start upper
  return middle

def onward? (start : Nat) (t : Text) : Option Text := between? start (bytes t) t

def upTo? (stop : Nat) (t : Text) : Option Text := between? 0 stop t

theorem between_some_iff (start stop : Nat) (t middle : Text) :
    between? start stop t = some middle ↔
      ∃ left right, t = left ++ (middle ++ right) ∧ bytes left = start ∧ bytes (left ++ middle) = stop := by
  simp only [between?, Option.bind_eq_bind, Option.bind_eq_some_iff, Option.pure_def, Option.some.injEq, Prod.exists,
    cut_at_some_iff]
  refine ⟨?_, ?_⟩
  · intro cuts
    obtain ⟨upper, right, ⟨rfl, stop⟩, left, _, ⟨rfl, start⟩, rfl⟩ := cuts
    exact ⟨left, right, by simp, start, stop⟩
  · intro stretch
    obtain ⟨left, right, rfl, start, stop⟩ := stretch
    exact ⟨left ++ middle, right, ⟨by simp, stop⟩, left, middle, ⟨rfl, start⟩, rfl⟩

theorem between_cuts_iff (start stop : Nat) (t : Text) :
    (between? start stop t).isSome = true ↔ start ≤ stop ∧ IsBoundary start t ∧ IsBoundary stop t := by
  rw [Option.isSome_iff_exists]
  refine ⟨?_, ?_⟩
  · intro cut
    obtain ⟨middle, found⟩ := cut
    obtain ⟨left, right, rfl, rfl, rfl⟩ := (between_some_iff _ _ _ _).mp found
    refine ⟨by rw [bytes_append]; omega, ⟨left, middle ++ right, rfl, rfl⟩, ⟨left ++ middle, right, by simp, rfl⟩⟩
  · intro places
    obtain ⟨ordered, ⟨left, rest, rfl, rfl⟩, ⟨upper, right, joined, rfl⟩⟩ := places
    obtain ⟨middle, rfl⟩ := prefix_of_bytes left upper _ (List.prefix_append left rest) ⟨right, joined.symm⟩ ordered
    exact ⟨middle, (between_some_iff _ _ _ _).mpr ⟨left, right, by rw [joined, List.append_assoc], rfl, rfl⟩⟩

theorem between_at (left middle right : Text) :
    between? (bytes left) (bytes (left ++ middle)) (left ++ (middle ++ right)) = some middle :=
  (between_some_iff _ _ _ _).mpr ⟨left, right, rfl, rfl, rfl⟩

theorem onward_at (left right : Text) : onward? (bytes left) (left ++ right) = some right := by
  have cut := between_at left right []
  rwa [List.append_nil] at cut

theorem up_to_at (left right : Text) : upTo? (bytes left) (left ++ right) = some left := between_at [] left right

theorem onward_some (start : Nat) (t rest : Text) (cut : onward? start t = some rest) :
    ∃ done, t = done ++ rest ∧ bytes done = start := by
  obtain ⟨left, right, joined, start, stop⟩ := (between_some_iff _ _ _ _).mp cut
  rw [joined, ← List.append_assoc, bytes_append _ right] at stop
  obtain rfl : right = [] := (bytes_zero_iff right).mp (by omega)
  exact ⟨left, by simpa using joined, start⟩

theorem bytes_positive (t : Text) (filled : t ≠ []) : 0 < bytes t :=
  Nat.pos_of_ne_zero (mt (bytes_zero_iff t).mp filled)

theorem bytes_grow (left t : Text) (filled : t ≠ []) : bytes left < bytes (left ++ t) := by
  rw [bytes_append]
  exact Nat.lt_add_of_pos_right (bytes_positive t filled)

end Text

def places : Nat → Text → List Nat
  | _, [] => []
  | reached, c :: rest => reached :: places (reached + c.utf8Size) rest

def placeFromEnd (n : Nat) (t : Text) : Nat := ((places 0 t).reverse[n - 1]?).getD 0

def enclosed? (t : Text) : Option Text :=
  let marker := Marker.ofText t
  let start := bytes marker.opening
  let stop := placeFromEnd marker.closing.length t
  if stop ≤ start then some [] else between? start stop t

theorem places_length (reached : Nat) (t : Text) : (places reached t).length = t.length := by
  induction t generalizing reached with
  | nil => rfl
  | cons c rest ih => rw [places, List.length_cons, List.length_cons, ih]

theorem places_at (reached n : Nat) (t : Text) (inside : n < t.length) :
    (places reached t)[n]? = some (reached + bytes (t.take n)) := by
  induction t generalizing reached n with
  | nil => cases inside
  | cons c rest ih =>
      cases n with
      | zero => rfl
      | succ n =>
          rw [places, List.getElem?_cons_succ, ih _ n (by simpa using inside), List.take_succ_cons, bytes]
          exact congrArg some (Nat.add_assoc _ _ _)

theorem place_from_end (n : Nat) (t : Text) (positive : 0 < n) : placeFromEnd n t = bytes (dropEnd n t) := by
  rw [placeFromEnd, dropEnd]
  by_cases enough : n ≤ t.length
  · have size := places_length 0 t
    rw [List.getElem?_reverse (by omega), places_at 0 _ t (by omega), Option.getD_some, Nat.zero_add, size]
    congr 2
    omega
  · have size := places_length 0 t
    rw [List.getElem?_eq_none (by rw [List.length_reverse]; omega), Nat.sub_eq_zero_of_le (by omega)]
    rfl

theorem enclosed_inner (input inner : Text) (opened : input = (Marker.ofText input).opening ++ inner) :
    enclosed input = dropEnd (Marker.ofText input).closing.length inner :=
  congrArg Slice.text (enclosed_slice_eq input inner opened)

theorem place_in_opening (front inner : Text) (n : Nat) (short : inner.length < n) :
    bytes (dropEnd n (front ++ inner)) ≤ bytes front := by
  apply bytes_prefix
  apply List.prefix_of_prefix_length_le (List.take_prefix _ _) (List.prefix_append front inner)
  rw [List.length_take, List.length_append]
  omega

theorem enclosed_cut (input : Text) (interpolated : isInterpolated input = true) :
    enclosed? input = some (enclosed input) := by
  obtain ⟨inner, opened⟩ := interpolated_opening input interpolated
  have inside := enclosed_inner input inner opened
  have stop := place_from_end _ input (List.length_pos_iff.mpr (Marker.ofText input).closing_filled)
  rw [enclosed?, stop, inside]
  generalize Marker.ofText input = marker at opened ⊢
  subst opened
  by_cases short : inner.length < marker.closing.length
  · have nothing : dropEnd marker.closing.length inner = [] := by
      rw [dropEnd, Nat.sub_eq_zero_of_le (by omega), List.take_zero]
    rw [if_pos (place_in_opening marker.opening inner _ short), nothing]
  · rw [drop_end_append _ _ _ (by omega)]
    by_cases empty : dropEnd marker.closing.length inner = []
    · rw [empty, List.append_nil, if_pos (Nat.le_refl _)]
    · have cut := between_at marker.opening (dropEnd marker.closing.length inner)
        (inner.drop (inner.length - marker.closing.length))
      rw [drop_end_rest] at cut
      rw [if_neg (Nat.not_le_of_lt (bytes_grow _ _ empty)), cut]

inductive Seek where
  | found (position : Nat)
  | missing
  | again (next : Nat)
deriving DecidableEq, Repr

def seekStep? (word t : Text) (origin : Nat) : Option Seek := do
  let rest ← onward? origin t
  match offset? word rest with
  | none => return .missing
  | some distance =>
      let front ← upTo? (origin + distance) t
      let back ← onward? (origin + distance + bytes word) t
      if isBound front.getLast? && isBound back.head? then return .found (origin + distance)
      else return .again (origin + distance + bytes word)

-- A step that goes no further fails like a cut.
def wordFrom? (word t : Text) (origin : Nat) : Option (Option Nat) :=
  match seekStep? word t origin with
  | none => none
  | some .missing => some none
  | some (.found position) => some (some position)
  | some (.again next) => if origin < next ∧ next ≤ bytes t then wordFrom? word t next else none
termination_by bytes t - origin

theorem seek_step_at (word done left right : Text) (found : cut? word (left ++ (word ++ right)) = some (left, right)) :
    seekStep? word (done ++ (left ++ (word ++ right))) (bytes done) =
      some (if isBound (done ++ left).getLast? && isBound right.head? then .found (bytes (done ++ left))
        else .again (bytes (done ++ left ++ word))) := by
  have front := up_to_at (done ++ left) (word ++ right)
  have back := onward_at (done ++ left ++ word) right
  simp only [List.append_assoc] at front back
  simp only [seekStep?, onward_at, offset?, found, Option.map_some, Option.bind_eq_bind, Option.bind_some,
    ← bytes_append, List.append_assoc, front, back]
  split <;> rfl

theorem seek_step_missing (word done rest : Text) (absent : cut? word rest = none) :
    seekStep? word (done ++ rest) (bytes done) = some .missing := by
  simp [seekStep?, onward_at, offset?, absent]

theorem seek_step_advances (word t : Text) (origin next : Nat) (filled : word ≠ [])
    (step : seekStep? word t origin = some (.again next)) : origin < next ∧ IsBoundary next t := by
  cases cut : onward? origin t with
  | none => simp [seekStep?, cut] at step
  | some rest =>
      obtain ⟨done, rfl, rfl⟩ := onward_some origin t rest cut
      cases found : cut? word rest with
      | none => simp [seek_step_missing word done rest found] at step
      | some pieces =>
          obtain ⟨left, right⟩ := pieces
          obtain rfl : rest = left ++ (word ++ right) := by simpa using cut_joins word rest left right found
          rw [seek_step_at word done left right found] at step
          by_cases alone : (isBound (done ++ left).getLast? && isBound right.head?) = true
          · rw [if_pos alone] at step
            cases step
          · rw [if_neg alone] at step
            obtain rfl := Seek.again.inj (Option.some.inj step)
            have positive := bytes_positive word filled
            refine ⟨?_, ⟨done ++ left ++ word, right, by simp, rfl⟩⟩
            simp only [bytes_append]
            omega

theorem last_nearer (c : Char) (t : Text) (before : Option Char) :
    (c :: t).getLast?.or before = t.getLast?.or (some c) := by
  rw [List.getLast?_cons]
  cases t.getLast? <;> rfl

theorem cut_word_passing (word : Text) (before : Option Char) (hooks t : Text) :
    cutWord? word hooks.length before (hooks ++ t) =
      (cutWord? word 0 (hooks.getLast?.or before) t).map fun cut => (hooks ++ cut.1, cut.2) := by
  induction hooks generalizing before with
  | nil => simp
  | cons c hooks ih =>
      rw [List.length_cons, List.cons_append, cutWord?, ih, Option.map_map, last_nearer]
      rfl

theorem cut_word_next (word : Text) (before : Option Char) (t left right : Text) (filled : word ≠ [])
    (found : cut? word t = some (left, right)) :
    cutWord? word 0 before t =
      if isBound (left.getLast?.or before) && isBound right.head? then some (left, right)
      else (cutWord? word 0 word.getLast? right).map fun cut => (left ++ (word ++ cut.1), cut.2) := by
  induction t generalizing before left with
  | nil => simp [cut?] at found
  | cons c rest ih =>
      cases here : after? word (c :: rest) with
      | some tail =>
          simp only [cut?, here, Option.some.injEq, Prod.mk.injEq] at found
          obtain ⟨rfl, rfl⟩ := found
          obtain ⟨d, hooks, rfl⟩ := List.exists_cons_of_ne_nil filled
          obtain ⟨rfl, rfl⟩ := List.cons.inj ((after_some_iff _ _ _).mp here)
          have width : (c :: hooks).length - 1 = hooks.length := rfl
          simp only [cutWord?, here, width, List.cons_append]
          rw [List.append_eq, cut_word_passing, Option.map_map, ← last_nearer c hooks none, Option.or_none]
          rfl
      | none =>
          simp only [cut?, here, Option.map_eq_some_iff, withFirst, Prod.mk.injEq, Prod.exists] at found
          obtain ⟨l, r, later, rfl, rfl⟩ := found
          simp only [cutWord?, here]
          rw [ih (some c) l later, last_nearer]
          by_cases alone : (isBound (l.getLast?.or (some c)) && isBound r.head?) = true
          · rw [if_pos alone, if_pos alone]
            rfl
          · rw [if_neg alone, if_neg alone, Option.map_map]
            rfl

theorem cut_word_absent (word : Text) (before : Option Char) (t : Text) (absent : cut? word t = none) :
    cutWord? word 0 before t = none := by
  induction t generalizing before with
  | nil => rfl
  | cons c rest ih =>
      cases here : after? word (c :: rest) with
      | some tail => simp [cut?, here] at absent
      | none =>
          simp only [cut?, here, Option.map_eq_none_iff] at absent
          simp only [cutWord?, here, ih (some c) absent, Option.map_none]

theorem word_from_again (word done left right : Text) (filled : word ≠ [])
    (found : cut? word (left ++ (word ++ right)) = some (left, right))
    (inside : ¬ (isBound (done ++ left).getLast? && isBound right.head?) = true) :
    wordFrom? word (done ++ (left ++ (word ++ right))) (bytes done) =
      wordFrom? word (done ++ (left ++ (word ++ right))) (bytes (done ++ left ++ word)) := by
  have positive := bytes_positive word filled
  have onwards : bytes done < bytes (done ++ left ++ word) ∧
      bytes (done ++ left ++ word) ≤ bytes (done ++ (left ++ (word ++ right))) := by
    simp only [bytes_append]
    omega
  rw [wordFrom?, seek_step_at word done left right found, if_neg inside]
  simp only [if_pos onwards]

theorem word_from_at (word done rest : Text) (filled : word ≠ []) :
    wordFrom? word (done ++ rest) (bytes done) =
      some ((cutWord? word 0 done.getLast? rest).map fun cut => bytes (done ++ cut.1)) := by
  -- Each step that goes on leaves less of the text.
  induction size : rest.length using Nat.strongRecOn generalizing done rest with
  | ind n ih =>
      cases found : cut? word rest with
      | none =>
          rw [wordFrom?, seek_step_missing word done rest found, cut_word_absent word _ rest found]
          rfl
      | some pieces =>
          obtain ⟨left, right⟩ := pieces
          obtain rfl : rest = left ++ (word ++ right) := by simpa using cut_joins word rest left right found
          rw [cut_word_next word _ _ left right filled found, ← List.getLast?_append]
          by_cases alone : (isBound (done ++ left).getLast? && isBound right.head?) = true
          · rw [wordFrom?, seek_step_at word done left right found, if_pos alone, if_pos alone]
            rfl
          · have shorter : right.length < n := by
              have long := List.length_pos_iff.mpr filled
              simp only [List.length_append] at size
              omega
            have later := ih right.length shorter (done ++ left ++ word) right rfl
            have last : (done ++ left ++ word).getLast? = word.getLast? := by
              rw [List.getLast?_append, List.getLast?_eq_some_getLast filled, Option.some_or]
            have joined : done ++ left ++ word ++ right = done ++ (left ++ (word ++ right)) := by simp
            rw [last, joined] at later
            rw [word_from_again word done left right filled found alone, later, if_neg alone, Option.map_map]
            simp only [Function.comp_def, List.append_assoc]

theorem word_from_ends (word t : Text) (origin : Nat) (filled : word ≠ []) (place : IsBoundary origin t) :
    (wordFrom? word t origin).isSome = true := by
  obtain ⟨done, rest, rfl, rfl⟩ := place
  rw [word_from_at word done rest filled]
  rfl

def upToColon? (start : Nat) (t : Text) : Option Text := do
  let rest ← onward? start t
  match offset? [':'] rest with
  | none => return t
  | some distance => between? start (start + distance) t

def narrowed? (t : Text) : Option Text := do
  match ← wordFrom? "for".toList t 0 with
  | none => return t
  | some head =>
      match ← wordFrom? "in".toList t (head + 3) with
      | none => return t
      | some link => upToColon? (link + 2) t

theorem up_to_colon_at (done rest : Text) :
    upToColon? (bytes done) (done ++ rest) = some (((cut? [':'] rest).map Prod.fst).getD (done ++ rest)) := by
  simp only [upToColon?, onward_at, offset?, Option.bind_eq_bind, Option.bind_some]
  cases found : cut? [':'] rest with
  | none => rfl
  | some pieces =>
      obtain ⟨source, more⟩ := pieces
      have joined : rest = source ++ ([':'] ++ more) := by simpa using cut_joins [':'] rest source more found
      have lies := between_at done source ([':'] ++ more)
      rw [← joined, bytes_append done source] at lies
      exact lies

theorem narrowed_cut (t : Text) : narrowed? t = some (collection t) := by
  have loop := word_from_at "for".toList [] t (by simp)
  rw [List.nil_append, bytes] at loop
  rw [narrowed?, loop, List.getLast?_nil]
  cases forFound : cutWord? "for".toList 0 none t with
  | none =>
      simp only [collection, collection?, forFound, Option.bind_eq_bind, Option.bind_none, Option.getD_none]
      rfl
  | some cut =>
      obtain ⟨beforeFor, afterFor⟩ := cut
      obtain ⟨forJoins, forSize, forLast⟩ := joined_behind_for t beforeFor afterFor forFound
      have member := word_from_at "in".toList (beforeFor ++ "for".toList) afterFor (by simp)
      rw [← forJoins, forSize, forLast] at member
      simp only [Option.map_some, List.nil_append, Option.bind_eq_bind, Option.bind_some, member, collection,
        collection?, forFound]
      cases inFound : cutWord? "in".toList 0 (some 'r') afterFor with
      | none => rfl
      | some cut =>
          obtain ⟨beforeIn, afterIn⟩ := cut
          obtain ⟨inJoins, inSize⟩ := joined_behind_in (beforeFor ++ "for".toList) afterFor beforeIn afterIn _ inFound
          have projection := up_to_colon_at (beforeFor ++ "for".toList ++ beforeIn ++ "in".toList) afterIn
          rw [← inJoins, ← forJoins, inSize] at projection
          simp only [Option.map_some, Option.bind_some, projection]
          cases cut? [':'] afterIn <;> rfl

structure Sweep where
  start : Nat
  reached : Nat
  spots : List Text
deriving DecidableEq, Repr

def separatorWidth? (rest : Text) : Option Nat :=
  match [['&', '&'], ['|', '|']].find? (startsWith · rest) with
  | some operator => some (bytes operator)
  | none => (rest.head?.filter isDelimiter).map Char.utf8Size

def sweepStep? (t : Text) (sweep : Sweep) : Option Sweep := do
  let rest ← onward? sweep.reached t
  match separatorWidth? rest with
  | none =>
      let c ← rest.head?
      return { sweep with reached := sweep.reached + c.utf8Size }
  | some width =>
      let behind := sweep.reached + width
      if sweep.start < sweep.reached then
        let spot ← between? sweep.start sweep.reached t
        return ⟨behind, behind, sweep.spots ++ [spot]⟩
      else return ⟨behind, behind, sweep.spots⟩

def sweep? (t : Text) (sweep : Sweep) : Option (List Text) :=
  if sweep.reached < bytes t then
    match sweepStep? t sweep with
    | none => none
    | some next => if sweep.reached < next.reached then sweep? t next else none
  else if sweep.start < bytes t then (onward? sweep.start t).map fun spot => sweep.spots ++ [spot]
  else some sweep.spots
termination_by bytes t - sweep.reached

def spots? (t : Text) : Option (List Text) := sweep? t ⟨0, 0, []⟩

def withSpot (spots : List Text) (spot : Text) : List Text := spots ++ [spot].filter fun piece => !piece.isEmpty

theorem separator_width_some (rest : Text) (width : Nat) (wide : separatorWidth? rest = some width) :
    ∃ mark more, rest = mark ++ more ∧ mark ∈ separators ∧ bytes mark = width := by
  rw [separatorWidth?] at wide
  cases found : [['&', '&'], ['|', '|']].find? (startsWith · rest) with
  | some operator =>
      rw [found] at wide
      have begins : startsWith operator rest = true := by simpa using List.find?_some found
      obtain ⟨more, joined⟩ := (starts_with_iff operator rest).mp begins
      have known := List.mem_of_find?_eq_some found
      refine ⟨operator, more, joined.symm, ?_, Option.some.inj wide⟩
      simp only [List.mem_cons, List.not_mem_nil, or_false] at known
      rcases known with rfl | rfl <;> simp [separators]
  | none =>
      rw [found] at wide
      obtain ⟨c, front, rfl⟩ := Option.map_eq_some_iff.mp wide
      obtain ⟨first, delimits⟩ := Option.filter_eq_some_iff.mp front
      obtain ⟨more, rfl⟩ := List.head?_eq_some_iff.mp first
      exact ⟨[c], more, rfl, delimiter_separates c delimits, rfl⟩

theorem operator_absent (c : Char) (rest : Text) (noAmpersands : ∀ tail, c = '&' → rest = '&' :: tail → False)
    (noBars : ∀ tail, c = '|' → rest = '|' :: tail → False) :
    [['&', '&'], ['|', '|']].find? (startsWith · (c :: rest)) = none := by
  have apart (operator : Char) (none : ∀ tail, c = operator → rest = operator :: tail → False) :
      startsWith [operator, operator] (c :: rest) = false := by
    rw [← Bool.not_eq_true, starts_with_iff, List.cons_prefix_cons]
    rintro ⟨rfl, tail, rfl⟩
    exact none tail rfl rfl
  simp [apart '&' noAmpersands, apart '|' noBars]

theorem sweep_step_cut (done spot mark rest : Text) (spots : List Text)
    (wide : separatorWidth? (mark ++ rest) = some (bytes mark)) :
    sweepStep? (done ++ (spot ++ (mark ++ rest))) ⟨bytes done, bytes (done ++ spot), spots⟩ =
      some ⟨bytes (done ++ spot ++ mark), bytes (done ++ spot ++ mark), withSpot spots spot⟩ := by
  have ahead := onward_at (done ++ spot) (mark ++ rest)
  rw [List.append_assoc] at ahead
  have cut := between_at done spot (mark ++ rest)
  simp only [sweepStep?, ahead, Option.bind_eq_bind, Option.bind_some, wide, ← bytes_append]
  by_cases empty : spot = []
  · subst spot
    simp [withSpot]
  · simp [bytes_grow done spot empty, cut, withSpot, empty]

theorem sweep_step_pass (done spot rest : Text) (c : Char) (spots : List Text)
    (plain : separatorWidth? (c :: rest) = none) :
    sweepStep? (done ++ (spot ++ c :: rest)) ⟨bytes done, bytes (done ++ spot), spots⟩ =
      some ⟨bytes done, bytes (done ++ (spot ++ [c])), spots⟩ := by
  have ahead := onward_at (done ++ spot) (c :: rest)
  rw [List.append_assoc] at ahead
  have width : bytes (done ++ (spot ++ [c])) = bytes (done ++ spot) + c.utf8Size := by
    simp [bytes_append, bytes, Nat.add_assoc]
  simp only [sweepStep?, ahead, Option.bind_eq_bind, Option.bind_some, plain, List.head?_cons, width]
  rfl

theorem sweep_step_advances (t : Text) (sweep next : Sweep) (step : sweepStep? t sweep = some next) :
    sweep.reached < next.reached ∧ IsBoundary next.reached t := by
  rw [sweepStep?] at step
  obtain ⟨rest, ahead, step⟩ := Option.bind_eq_some_iff.mp step
  obtain ⟨done, rfl, reached⟩ := onward_some _ t rest ahead
  cases wide : separatorWidth? rest with
  | none =>
      rw [wide] at step
      obtain ⟨c, first, step⟩ := Option.bind_eq_some_iff.mp step
      obtain ⟨more, rfl⟩ := List.head?_eq_some_iff.mp first
      cases step
      have positive := c.utf8Size_pos
      refine ⟨Nat.lt_add_of_pos_right positive, ⟨done ++ [c], more, by simp, ?_⟩⟩
      simp [bytes_append, bytes, reached]
  | some width =>
      obtain ⟨mark, more, rfl, separates, rfl⟩ := separator_width_some rest width wide
      have positive := bytes_positive mark (separator_filled mark separates)
      have behind : next.reached = sweep.reached + bytes mark := by
        rw [wide] at step
        by_cases filled : sweep.start < sweep.reached
        · simp only [if_pos filled] at step
          obtain ⟨spot, _, step⟩ := Option.bind_eq_some_iff.mp step
          cases step
          rfl
        · simp only [if_neg filled] at step
          cases step
          rfl
      rw [behind]
      refine ⟨Nat.lt_add_of_pos_right positive, ⟨done ++ mark, more, by simp, ?_⟩⟩
      rw [bytes_append, reached]

theorem sweep_again (t : Text) (sweep next : Sweep) (more : sweep.reached < bytes t)
    (step : sweepStep? t sweep = some next) : sweep? t sweep = sweep? t next := by
  rw [sweep?, if_pos more, step]
  exact if_pos (sweep_step_advances t sweep next step).1

theorem sweep_cut (done spot mark rest : Text) (spots : List Text) (filled : mark ≠ [])
    (wide : separatorWidth? (mark ++ rest) = some (bytes mark)) :
    sweep? (done ++ (spot ++ (mark ++ rest))) ⟨bytes done, bytes (done ++ spot), spots⟩ =
      sweep? ((done ++ spot ++ mark) ++ ([] ++ rest))
        ⟨bytes (done ++ spot ++ mark), bytes ((done ++ spot ++ mark) ++ []), withSpot spots spot⟩ := by
  have positive := bytes_positive mark filled
  rw [sweep_again _ _ _ ?more (sweep_step_cut done spot mark rest spots wide)]
  case more =>
    simp only [bytes_append]
    omega
  simp

theorem sweep_pass (done spot rest : Text) (c : Char) (spots : List Text)
    (plain : separatorWidth? (c :: rest) = none) :
    sweep? (done ++ (spot ++ c :: rest)) ⟨bytes done, bytes (done ++ spot), spots⟩ =
      sweep? (done ++ ((spot ++ [c]) ++ rest)) ⟨bytes done, bytes (done ++ (spot ++ [c])), spots⟩ := by
  have positive := c.utf8Size_pos
  rw [sweep_again _ _ _ ?more (sweep_step_pass done spot rest c spots plain)]
  case more =>
    simp only [bytes_append, bytes]
    omega
  simp

theorem sweep_over (done spot : Text) (spots : List Text) :
    sweep? (done ++ spot) ⟨bytes done, bytes (done ++ spot), spots⟩ = some (withSpot spots spot) := by
  rw [sweep?, if_neg (Nat.lt_irrefl _)]
  by_cases empty : spot = []
  · subst spot
    simp [withSpot]
  · simp [bytes_grow done spot empty, onward_at, withSpot, empty]

theorem sweep_separated (done spot mark rest : Text) (spots pieces : List Text) (filled : mark ≠ [])
    (wide : separatorWidth? (mark ++ rest) = some (bytes mark))
    (later : ∀ done spots, sweep? (done ++ ([] ++ rest)) ⟨bytes done, bytes (done ++ []), spots⟩ =
      some (spots ++ pieces.filter fun piece => !piece.isEmpty)) :
    sweep? (done ++ (spot ++ (mark ++ rest))) ⟨bytes done, bytes (done ++ spot), spots⟩ =
      some (spots ++ (spot :: pieces).filter fun piece => !piece.isEmpty) := by
  rw [sweep_cut done spot mark rest spots filled wide, later, withSpot, List.append_assoc, ← List.filter_append,
    List.singleton_append]

theorem sweep_at (done spot rest : Text) (spots : List Text) :
    sweep? (done ++ (spot ++ rest)) ⟨bytes done, bytes (done ++ spot), spots⟩ =
      some (spots ++ ((spot ++ (scan rest).1) :: (scan rest).2.spots).filter fun piece => !piece.isEmpty) := by
  fun_induction scan rest generalizing done spot spots with
  | case1 =>
      rw [List.append_nil, sweep_over]
      rfl
  | case2 rest ih =>
      rw [List.append_nil]
      exact sweep_separated done spot ['&', '&'] rest spots _ (by simp) rfl fun done spots => ih done [] spots
  | case3 rest ih =>
      rw [List.append_nil]
      exact sweep_separated done spot ['|', '|'] rest spots _ (by simp) rfl fun done spots => ih done [] spots
  | case4 c rest noAmpersands noBars delimits ih =>
      have wide : separatorWidth? (c :: rest) = some c.utf8Size := by
        simp only [separatorWidth?, operator_absent c rest noAmpersands noBars, List.head?_cons, Option.filter_some,
          if_pos delimits, Option.map_some]
      rw [List.append_nil]
      exact sweep_separated done spot [c] rest spots _ (by simp) wide fun done spots => ih done [] spots
  | case5 c rest noAmpersands noBars plain ih =>
      have narrow : separatorWidth? (c :: rest) = none := by
        simp only [separatorWidth?, operator_absent c rest noAmpersands noBars, List.head?_cons, Option.filter_some,
          if_neg plain, Option.map_none]
      rw [sweep_pass done spot rest c spots narrow, ih, List.append_assoc]
      rfl

theorem spots_cut (t : Text) : spots? t = some (atoms t) := by
  have read := sweep_at [] [] t []
  rw [atoms, scan_pieces]
  exact read

theorem enclosed_tail (input inner : Text) (opened : input = (Marker.ofText input).opening ++ inner) :
    ∃ tail, inner = enclosed input ++ tail ∧ tail.length = min (Marker.ofText input).closing.length inner.length := by
  rw [enclosed_inner input inner opened]
  refine ⟨inner.drop (inner.length - (Marker.ofText input).closing.length), (drop_end_rest _ inner).symm, ?_⟩
  rw [List.length_drop]
  omega

theorem collection_inside (t : Text) : ∃ before after, t = before ++ (collection t ++ after) := by
  rw [← collection_slice_text]
  exact ⟨(collectionSlice t).before, (collectionSlice t).after, (collection_slice_whole t).symm⟩

/-- A cut fails unless its two ends are places between characters, the second not before the first. With such cuts the
whole scanner finds what it finds character by character, so none of them fails, and each step of its two loops goes
further. Behind the opening mark all is kept but as many characters as the closing mark has, and what is looked at is
one stretch of that. -/
theorem scanner_cuts_hold (input : Text) (interpolated : isInterpolated input = true) :
    let marker := Marker.ofText input
    (∀ start stop t, (between? start stop t).isSome = true ↔
      start ≤ stop ∧ IsBoundary start t ∧ IsBoundary stop t) ∧
    enclosed? input = some (enclosed input) ∧
    (∀ t, narrowed? t = some (collection t)) ∧
    (∀ t, spots? t = some (atoms t)) ∧
    (∀ word t origin, word ≠ [] → IsBoundary origin t → (wordFrom? word t origin).isSome = true) ∧
    (∀ word t origin next, word ≠ [] → seekStep? word t origin = some (.again next) →
      origin < next ∧ IsBoundary next t) ∧
    (∀ t sweep next, sweepStep? t sweep = some next → sweep.reached < next.reached ∧ IsBoundary next.reached t) ∧
    ∃ inner, input = marker.opening ++ inner ∧
      (marker.closing.length ≤ inner.length →
        ∃ tail, inner = enclosed input ++ tail ∧ tail.length = marker.closing.length) ∧
      (inner.length < marker.closing.length → enclosed input = []) ∧
      ∃ before after, inner = before ++ (collection (enclosed input) ++ after) ∧
        min marker.closing.length inner.length ≤ after.length := by
  intro marker
  refine ⟨between_cuts_iff, enclosed_cut input interpolated, narrowed_cut, spots_cut, word_from_ends,
    seek_step_advances, sweep_step_advances, ?_⟩
  obtain ⟨inner, opened⟩ := interpolated_opening input interpolated
  obtain ⟨tail, joined, size⟩ := enclosed_tail input inner opened
  refine ⟨inner, opened, ?_, ?_, ?_⟩
  · intro fits
    exact ⟨tail, joined, by rw [size, Nat.min_eq_left fits]⟩
  · intro short
    have lengths := congrArg List.length joined
    rw [List.length_append, size, Nat.min_eq_right (Nat.le_of_lt short)] at lengths
    exact List.eq_nil_of_length_eq_zero (by omega)
  · obtain ⟨before, after, narrowed⟩ := collection_inside (enclosed input)
    refine ⟨before, after ++ tail, ?_, ?_⟩
    · rw [joined]
      conv => lhs; rw [narrowed]
      simp
    · rw [List.length_append, size]
      exact Nat.le_add_left _ _

theorem scanner_cuts_hold_wide :
    let input : Text := "$\x7b[for é in var.é||x : é]€".toList
    let short : Text := "$\x7b\x7b€".toList
    isInterpolated input = true ∧ isInterpolated short = true ∧
      enclosed? input = some "[for é in var.é||x : é]".toList ∧ enclosed? short = some [] ∧
      (do spots? (← narrowed? (← enclosed? input))) = some ["var.é".toList, "x".toList] := by
  intro input short
  have long : isInterpolated input = true := by decide
  have brief : isInterpolated short = true := by decide
  obtain ⟨_, inside, narrowed, spots, _⟩ := scanner_cuts_hold input long
  obtain ⟨_, nothing, _⟩ := scanner_cuts_hold short brief
  refine ⟨long, brief, ?_, ?_, ?_⟩
  · rw [inside]
    decide
  · rw [nothing]
    decide
  · simp only [inside, narrowed, spots, Option.bind_eq_bind, Option.bind_some]
    decide

end Interpolation
