import Interpolation.Atoms
import Interpolation.Marker
import Interpolation.Proofs.Occurrence

set_option autoImplicit false

namespace Interpolation.Marker

open Text

theorem opening_filled (marker : Marker) : marker.opening ≠ [] := by cases marker <;> simp [opening]

theorem closing_filled (marker : Marker) : marker.closing ≠ [] := by cases marker <;> simp [closing]

theorem opening_hooks (marker : Marker) : ∃ hooks, marker.opening = '$' :: hooks ∧ '$' ∉ hooks := by
  cases marker with
  | single => exact ⟨['{'], rfl, by decide⟩
  | doubled => exact ⟨['{', '{'], rfl, by decide⟩

theorem closing_braces (marker : Marker) (c : Char) : c ∈ marker.closing ↔ c = '}' := by
  cases marker <;> simp [closing]

theorem closing_count (marker : Marker) : marker.closing.count '}' = marker.closing.length := by cases marker <;> rfl

theorem opening_delimits (marker : Marker) : ∀ c ∈ marker.opening, isDelimiter c = true := by
  cases marker <;> simp [opening, isDelimiter, delimiters]

theorem closing_delimits (marker : Marker) : ∀ c ∈ marker.closing, isDelimiter c = true := by
  cases marker <;> simp [closing, isDelimiter, delimiters]

theorem opened_interpolated (marker : Marker) (t : Text) : isInterpolated (marker.opening ++ t) = true := by
  cases marker <;> rfl

theorem opened_marker (marker : Marker) (t : Text) (unbraced : t.head? ≠ some '{') :
    ofText (marker.opening ++ t) = marker := by
  cases marker with
  | single =>
      cases t with
      | nil => rfl
      | cons c rest =>
          have other : '{' ≠ c := fun same => unbraced (by rw [same]; rfl)
          simp [ofText, opening, startsWith, after?, other]
  | doubled => rfl

theorem single_opening_infix (marker : Marker) : single.opening <:+: marker.opening := by
  cases marker with
  | single => exact List.infix_refl _
  | doubled => exact ⟨[], ['{'], rfl⟩

structure Unmarked (t : Text) : Prop where
  braceless : '}' ∉ t
  unopened : ¬ single.opening <:+: t

theorem unmarked_infix (part t : Text) (inside : part <:+: t) (unmarked : Unmarked t) : Unmarked part :=
  ⟨fun brace => unmarked.braceless (inside.subset brace), fun opens => unmarked.unopened (opens.trans inside)⟩

theorem opening_absent (marker : Marker) (t : Text) (unmarked : Unmarked t) : ¬ marker.opening <:+: t :=
  fun present => unmarked.unopened (marker.single_opening_infix.trans present)

theorem closing_absent (marker : Marker) (t : Text) (unmarked : Unmarked t) : ¬ marker.closing <:+: t :=
  fun present => unmarked.braceless (present.subset ((marker.closing_braces '}').mpr rfl))

theorem opening_last (marker : Marker) (left right a b : Text) (absent : ¬ marker.opening <:+: right)
    (other : left ++ (marker.opening ++ right) = a ++ (marker.opening ++ b)) : a.length ≤ left.length := by
  obtain ⟨hooks, eq, unique⟩ := marker.opening_hooks
  rw [eq] at absent other
  exact unbordered_last '$' hooks left right a b unique absent other

theorem closing_first (marker : Marker) (left right a b : Text) (braceless : '}' ∉ left)
    (other : left ++ (marker.closing ++ right) = a ++ (marker.closing ++ b)) : left.length ≤ a.length := by
  rcases List.append_eq_append_iff.mp other with ⟨passed, rfl, _⟩ | ⟨passed, rfl, tail⟩
  · simp
  · cases passed with
    | nil => simp
    | cons c passed =>
        obtain ⟨d, closing, eq⟩ := List.exists_cons_of_ne_nil marker.closing_filled
        have brace : d = '}' := (marker.closing_braces d).mp (by simp [eq])
        rw [eq] at tail
        obtain rfl : d = c := (List.cons.inj tail).1
        exact absurd (by simp [brace]) braceless

-- A closing mark that starts later would leave one brace too few for itself.
theorem closing_last (marker : Marker) (left right a b : Text) (braceless : '}' ∉ right)
    (other : left ++ (marker.closing ++ right) = a ++ (marker.closing ++ b)) : a.length ≤ left.length := by
  rcases List.append_eq_append_iff.mp other with ⟨passed, rfl, tail⟩ | ⟨passed, rfl, _⟩
  · cases passed with
    | nil => simp
    | cons c passed =>
        obtain ⟨d, closing, eq⟩ := List.exists_cons_of_ne_nil marker.closing_filled
        have brace : d = '}' := (marker.closing_braces d).mp (by simp [eq])
        have first : d = c := by
          rw [eq] at tail
          exact (List.cons.inj tail).1
        have counts := congrArg (List.count '}') tail
        simp [closing_count, List.count_eq_zero_of_not_mem braceless, ← first, brace] at counts
        omega
  · simp

theorem without_opening_at (marker : Marker) (left right : Text) (absent : ¬ marker.opening <:+: right) :
    marker.withoutOpening (left ++ (marker.opening ++ right)) = left ++ right :=
  erase_last_at _ left right marker.opening_filled fun a b other => marker.opening_last left right a b absent other

theorem without_opening_front (marker : Marker) (right : Text) (absent : ¬ marker.opening <:+: right) :
    marker.withoutOpening (marker.opening ++ right) = right := marker.without_opening_at [] right absent

theorem without_closing_at (marker : Marker) (left right : Text) (braceless : '}' ∉ right) :
    marker.withoutClosing (left ++ (marker.closing ++ right)) = left ++ right :=
  erase_last_at _ left right marker.closing_filled fun a b other => marker.closing_last left right a b braceless other

theorem without_closing_end (marker : Marker) (left : Text) :
    marker.withoutClosing (left ++ marker.closing) = left := by
  have closed := marker.without_closing_at left [] (by simp)
  rwa [List.append_nil, List.append_nil] at closed

theorem without_both_at (marker : Marker) (left between right : Text) (braceless : '}' ∉ left)
    (absent : ¬ marker.opening <:+: right) :
    marker.withoutBoth (left ++ (marker.closing ++ (between ++ (marker.opening ++ right)))) =
      left ++ (between ++ right) := by
  have closed := erase_first_at marker.closing left (between ++ (marker.opening ++ right)) marker.closing_filled
    (fun a b other => marker.closing_first left _ a b braceless other)
  rw [withoutBoth, closed, ← List.append_assoc, without_opening_at marker _ right absent, List.append_assoc]

theorem without_both_absent (marker : Marker) (t : Text) (unmarked : Unmarked t) : marker.withoutBoth t = t := by
  rw [withoutBoth, erase_first_absent _ t marker.closing_filled (marker.closing_absent t unmarked), withoutOpening,
    erase_last_absent _ t marker.opening_filled (marker.opening_absent t unmarked)]

end Interpolation.Marker
