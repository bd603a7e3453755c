import Interpolation.Proofs.Arrangement
import Interpolation.Proofs.Outcomes

set_option autoImplicit false

namespace Interpolation

open Text

def lastOffset? (mark t : Text) : Option Nat := (cutLast? mark t).map fun cut => bytes cut.1

def splice? (start width : Nat) (t : Text) : Option Text := do
  let (left, _) ← cutAt? start t
  let (_, right) ← cutAt? (start + width) t
  return left ++ right

def spliceAt? (place : Option Nat) (mark t : Text) : Option Text :=
  match place with
  | none => some t
  | some start => splice? start (bytes mark) t

theorem splice_found (mark t left right : Text) (joined : t = left ++ (mark ++ right)) :
    splice? (bytes left) (bytes mark) t = some (left ++ right) := by
  have start := cut_at_bytes left (mark ++ right)
  have stop := cut_at_bytes (left ++ mark) right
  rw [bytes_append, List.append_assoc] at stop
  simp [splice?, joined, start, stop]

theorem splice_first (mark t : Text) : spliceAt? (offset? mark t) mark t = some (eraseFirst mark t) := by
  cases found : cut? mark t with
  | none => simp [offset?, found, spliceAt?, eraseFirst]
  | some cut =>
      have joined : t = cut.1 ++ (mark ++ cut.2) := by simpa using cut_joins mark t cut.1 cut.2 found
      simp only [offset?, found, Option.map_some, spliceAt?, eraseFirst]
      exact splice_found mark t cut.1 cut.2 joined

theorem splice_last (mark t : Text) : spliceAt? (lastOffset? mark t) mark t = some (eraseLast mark t) := by
  cases found : cutLast? mark t with
  | none => simp [lastOffset?, found, spliceAt?, eraseLast]
  | some cut =>
      have joined : t = cut.1 ++ (mark ++ cut.2) := by simpa using cut_last_joins mark t cut.1 cut.2 found
      simp only [lastOffset?, found, Option.map_some, spliceAt?, eraseLast]
      exact splice_found mark t cut.1 cut.2 joined

example : splice? 1 2 "aéz".toList = some "az".toList ∧ splice? 2 1 "aéz".toList = none := by decide

theorem offset_stretch (mark t : Text) (start : Nat)
    (found : offset? mark t = some start ∨ lastOffset? mark t = some start) :
    IsBoundary start t ∧ IsBoundary (start + bytes mark) t ∧ start + bytes mark ≤ bytes t := by
  have occurs : ∃ left right, t = left ++ (mark ++ right) ∧ bytes left = start := by
    rcases found with first | last
    · obtain ⟨cut, there, rfl⟩ := Option.map_eq_some_iff.mp first
      exact ⟨cut.1, cut.2, by simpa using cut_joins mark t cut.1 cut.2 there, rfl⟩
    · obtain ⟨cut, there, rfl⟩ := Option.map_eq_some_iff.mp last
      exact ⟨cut.1, cut.2, by simpa using cut_last_joins mark t cut.1 cut.2 there, rfl⟩
  obtain ⟨left, right, rfl, rfl⟩ := occurs
  refine ⟨⟨left, mark ++ right, rfl, rfl⟩, ⟨left ++ mark, right, by simp, bytes_append left mark⟩, ?_⟩
  simp only [bytes_append]
  omega

namespace Marker

def spliceOpening? (marker : Marker) (t : Text) : Option Text :=
  spliceAt? (lastOffset? marker.opening t) marker.opening t

def spliceClosing? (marker : Marker) (t : Text) : Option Text :=
  spliceAt? (lastOffset? marker.closing t) marker.closing t

def spliceBoth? (marker : Marker) (t : Text) : Option Text :=
  (spliceAt? (offset? marker.closing t) marker.closing t).bind marker.spliceOpening?

theorem splice_both (marker : Marker) (t : Text) : marker.spliceBoth? t = some (marker.withoutBoth t) := by
  rw [spliceBoth?, splice_first, Option.bind_some, spliceOpening?, splice_last, withoutBoth, withoutOpening]

end Marker

def spliceLater? (marker : Marker) : List Text → Option (List Quasi)
  | [] => some []
  | [gap] => (marker.spliceClosing? gap).map fun raw => [⟨raw, true⟩]
  | gap :: next :: rest => do
      let raw ← marker.spliceBoth? gap
      let later ← spliceLater? marker (next :: rest)
      return ⟨raw, false⟩ :: later

def spliceQuasis? (marker : Marker) : List Text → Option (List Quasi)
  | [] => some []
  | [gap] => (marker.spliceClosing? gap).map fun raw => [⟨raw, true⟩]
  | gap :: next :: rest => do
      let raw ← marker.spliceOpening? gap
      let later ← spliceLater? marker (next :: rest)
      return ⟨raw, false⟩ :: later

def spliceRemainder? (input : Text) (reference : Reference) : Option Text := do
  let marker := Marker.ofText input
  let before ← marker.spliceOpening? (upTo reference.start input)
  let after ← marker.spliceClosing? (onward reference.stop input)
  return before ++ after

def spliceCompose? (policy : Policy) (input : Text) (references : List Reference) : Option (Noted Expression) :=
  match sortByStart references with
  | [] => some ⟨.ok (.literal input), []⟩
  | [reference] => (spliceRemainder? input reference).map (loneWith policy input reference)
  | sorted => do
      let elements ← spliceQuasis? (Marker.ofText input) (gaps input 0 sorted)
      return ⟨.ok (.template elements (sorted.map chain)), []⟩

theorem splice_later (marker : Marker) (gaps : List Text) :
    spliceLater? marker gaps = some (laterQuasis marker gaps) := by
  fun_induction spliceLater? marker gaps with
  | case1 => rfl
  | case2 gap => rw [Marker.spliceClosing?, splice_last]; rfl
  | case3 gap next rest ih => rw [marker.splice_both, ih]; rfl

theorem splice_quasis (marker : Marker) (gaps : List Text) : spliceQuasis? marker gaps = some (quasis marker gaps) := by
  fun_cases spliceQuasis? marker gaps with
  | case1 => rfl
  | case2 gap => rw [Marker.spliceClosing?, splice_last]; rfl
  | case3 gap next rest => rw [Marker.spliceOpening?, splice_last, splice_later]; rfl

theorem splice_remainder (input : Text) (reference : Reference) :
    spliceRemainder? input reference = some (remainder input reference) := by
  simp only [spliceRemainder?, Marker.spliceOpening?, Marker.spliceClosing?, splice_last, Option.bind_eq_bind,
    Option.bind_some, Option.pure_def]
  rfl

theorem splice_compose (policy : Policy) (input : Text) (references : List Reference) :
    spliceCompose? policy input references = some (compose policy input references) := by
  rw [spliceCompose?, compose]
  cases sortByStart references with
  | nil => rfl
  | cons first later =>
      cases later with
      | nil =>
          simp only [splice_remainder, Option.map_some]
          rfl
      | cons second rest => simp only [splice_quasis]; rfl

theorem later_quasis_tails (marker : Marker) (gaps : List Text) (last : Text) :
    (laterQuasis marker (gaps ++ [last])).map Quasi.tail = List.replicate gaps.length false ++ [true] := by
  induction gaps with
  | nil => rfl
  | cons gap rest ih =>
      rw [List.cons_append, later_quasis_cons marker gap _ (by simp), List.map_cons, ih]
      rfl

theorem template_tails (marker : Marker) (input : Text) (references : List Reference) :
    (quasis marker (gaps input 0 references)).map Quasi.tail = List.replicate references.length false ++ [true] := by
  have size := gaps_length input 0 references
  cases cut : gaps input 0 references with
  | nil => simp [cut] at size
  | cons first later =>
      rw [cut, List.length_cons, Nat.add_right_cancel_iff] at size
      rcases List.eq_nil_or_concat later with rfl | ⟨front, last, rfl⟩
      · rw [← size]
        rfl
      · rw [List.concat_eq_append] at size ⊢
        rw [quasis_cons marker first _ (by simp), List.map_cons, later_quasis_tails, ← size, List.length_append]
        rfl

theorem composed_failure (policy : Policy) (input : Text) (references : List Reference) (failure : Failure)
    (failed : (compose policy input references).result = .error failure) :
    policy = .error ∧
      ∃ reference, references = [reference] ∧ failure = .discarded input (remainder input reference) := by
  have perm := sort_by_start_perm references
  rw [compose] at failed
  cases sorted : sortByStart references with
  | nil => simp [sorted] at failed
  | cons reference later =>
      rw [sorted] at perm failed
      cases later with
      | cons second rest => simp at failed
      | nil =>
          simp only [lone_result] at failed
          by_cases refused : policy = .error ∧ remainder input reference ≠ []
          · rw [if_pos refused] at failed
            exact ⟨refused.1, reference, perm.symm.eq_singleton, (Except.error.inj failed).symm⟩
          · rw [if_neg refused] at failed
            cases failed

/-- Whatever spans the references have, every mark is found between two places to cut and every cut succeeds. Several
references become a template: one chain for each, in the order of their starts, and one piece more, of which the last
alone is a tail. Nothing fails unless text around a lone reference is an error. -/
theorem any_spans_compose (policy : Policy) (input : Text) (references : List Reference) :
    spliceCompose? policy input references = some (compose policy input references) ∧
    (∀ mark t start, offset? mark t = some start ∨ lastOffset? mark t = some start →
      IsBoundary start t ∧ IsBoundary (start + bytes mark) t ∧ start + bytes mark ≤ bytes t) ∧
    (2 ≤ references.length → ∃ elements sorted, Arranged references sorted ∧ sorted.length = references.length ∧
      compose policy input references = ⟨.ok (.template elements (sorted.map chain)), []⟩ ∧
      elements.length = references.length + 1 ∧
      elements.map Quasi.tail = List.replicate references.length false ++ [true]) ∧
    ∀ failure, (compose policy input references).result = .error failure → policy = .error ∧
      ∃ reference, references = [reference] ∧ failure = .discarded input (remainder input reference) := by
  refine ⟨splice_compose policy input references, offset_stretch, ?_, composed_failure policy input references⟩
  intro many
  have size := (sort_by_start_perm references).length_eq
  have tails := template_tails (Marker.ofText input) input (sortByStart references)
  rw [size] at tails
  refine ⟨_, sortByStart references, sort_arranged references, size, compose_several policy input references many, ?_,
    tails⟩
  rw [quasis_length, gaps_length, size]

theorem any_spans_compose_reversed :
    let input : Text := "${é}-${{}}".toList
    let references : List Reference :=
      [⟨90, 95, ⟨[], "x.y".toList⟩⟩, ⟨5, 2, ⟨[], "a.b".toList⟩⟩, ⟨3, 6, ⟨[], "c.d".toList⟩⟩]
    (∃ elements, compose .error input references = ⟨.ok (.template elements
        [addressChain "c.d".toList, addressChain "a.b".toList, addressChain "x.y".toList]), []⟩ ∧
      elements.map Quasi.tail = [false, false, false, true]) ∧
    spliceCompose? .error input references = some (compose .error input references) := by
  intro input references
  obtain ⟨spliced, _, several, _⟩ := any_spans_compose .error input references
  obtain ⟨elements, sorted, arranged, _, composed, _, tails⟩ := several (by decide)
  obtain rfl := (arranged_iff references sorted).mp arranged
  exact ⟨⟨elements, composed, tails⟩, spliced⟩

end Interpolation
