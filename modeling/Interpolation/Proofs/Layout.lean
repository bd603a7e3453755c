import Interpolation.Text.Basic
import Interpolation.Proofs.Occurrence

set_option autoImplicit false

/- A text laid out as spots and the gaps around them: one gap before each spot and one after the last. What the
   scanner cuts out of an input, where references are found in it, and how a template alternates its pieces with
   expressions are all layouts of one text. -/
namespace Interpolation

open Text

inductive Layout where
  | final (gap : Text)
  | spot (gap word : Text) (rest : Layout)
deriving DecidableEq, Repr

structure Site where
  position : Nat
  word : Text
deriving DecidableEq, Repr

def interleave : List Text → List Text → Text
  | [], _ => []
  | gap :: _, [] => gap
  | gap :: gaps, word :: words => gap ++ (word ++ interleave gaps words)

namespace Layout

def whole : Layout → Text
  | .final gap => gap
  | .spot gap word rest => gap ++ (word ++ whole rest)

def gaps : Layout → List Text
  | .final gap => [gap]
  | .spot gap _ rest => gap :: gaps rest

def spots : Layout → List Text
  | .final _ => []
  | .spot _ word rest => word :: spots rest

def leading : Layout → List Text
  | .final _ => []
  | .spot gap _ rest => gap :: leading rest

def ending : Layout → Text
  | .final gap => gap
  | .spot _ _ rest => ending rest

def sites : Nat → Layout → List Site
  | _, .final _ => []
  | reached, .spot gap word rest =>
      ⟨reached + bytes gap, word⟩ :: sites (reached + bytes gap + bytes word) rest

def behind (t : Text) : Layout → Layout
  | .final gap => .final (t ++ gap)
  | .spot gap word rest => .spot (t ++ gap) word rest

def append : Layout → Layout → Layout
  | .final gap, other => behind gap other
  | .spot gap word rest, other => .spot gap word (append rest other)

def keep (qualifies : Text → Bool) : Layout → Layout
  | .final gap => .final gap
  | .spot gap word rest =>
      if qualifies word then .spot gap word (keep qualifies rest) else behind (gap ++ word) (keep qualifies rest)

def Avoids (c : Char) : Layout → Prop
  | .final gap => c ∉ gap
  | .spot gap _ rest => c ∉ gap ∧ Avoids c rest

theorem behind_spot (t gap word : Text) (rest : Layout) :
    behind t (.spot gap word rest) = .spot (t ++ gap) word rest := rfl

@[simp] theorem whole_behind (t : Text) (layout : Layout) : (behind t layout).whole = t ++ layout.whole := by
  cases layout <;> simp [behind, whole]

@[simp] theorem spots_behind (t : Text) (layout : Layout) : (behind t layout).spots = layout.spots := by
  cases layout <;> rfl

@[simp] theorem whole_append (left right : Layout) : (append left right).whole = left.whole ++ right.whole := by
  induction left with
  | final gap => simp [append, whole]
  | spot gap word rest ih => simp [append, whole, ih]

@[simp] theorem spots_append (left right : Layout) : (append left right).spots = left.spots ++ right.spots := by
  induction left with
  | final gap => simp [append, spots]
  | spot gap word rest ih => simp [append, spots, ih]

@[simp] theorem whole_keep (qualifies : Text → Bool) (layout : Layout) :
    (keep qualifies layout).whole = layout.whole := by
  induction layout with
  | final gap => rfl
  | spot gap word rest ih => by_cases kept : qualifies word <;> simp [keep, kept, whole, ih]

@[simp] theorem spots_keep (qualifies : Text → Bool) (layout : Layout) :
    (keep qualifies layout).spots = layout.spots.filter qualifies := by
  induction layout with
  | final gap => rfl
  | spot gap word rest ih => by_cases kept : qualifies word <;> simp [keep, kept, spots, ih]

theorem sites_words (reached : Nat) (layout : Layout) : (sites reached layout).map Site.word = layout.spots := by
  induction layout generalizing reached with
  | final gap => rfl
  | spot gap word rest ih => simp [sites, spots, ih]

theorem gaps_nonempty (layout : Layout) : layout.gaps ≠ [] := by cases layout <;> simp [gaps]

theorem interleave_gaps (layout : Layout) : interleave layout.gaps layout.spots = layout.whole := by
  induction layout with
  | final gap => rfl
  | spot gap word rest ih => simp [gaps, spots, whole, interleave, ih]

theorem spot_infix (layout : Layout) (word : Text) (member : word ∈ layout.spots) : word <:+: layout.whole := by
  induction layout with
  | final gap => simp [spots] at member
  | spot gap first rest ih =>
      rcases List.mem_cons.mp member with same | later
      · exact ⟨gap, rest.whole, by simp [whole, same]⟩
      · obtain ⟨a, b, eq⟩ := ih later
        exact ⟨gap ++ first ++ a, b, by simp [whole, ← eq]⟩

theorem ending_append_final (layout : Layout) (t : Text) :
    (append layout (.final t)).ending = layout.ending ++ t := by
  induction layout with
  | final gap => rfl
  | spot gap word rest ih => simpa [append, ending] using ih

theorem ending_behind (t : Text) (layout : Layout) : layout.ending.length ≤ (behind t layout).ending.length := by
  cases layout with
  | final gap => simp [behind, ending]
  | spot gap word rest => exact Nat.le_refl _

theorem ending_whole (layout : Layout) : ∃ front, layout.whole = front ++ layout.ending := by
  induction layout with
  | final gap => exact ⟨[], rfl⟩
  | spot gap word rest ih =>
      obtain ⟨front, eq⟩ := ih
      exact ⟨gap ++ (word ++ front), by simp [whole, ending, eq]⟩

theorem split_ending (layout : Layout) (front tail : Text) (eq : layout.whole = front ++ tail)
    (fits : tail.length ≤ layout.ending.length) :
    ∃ stem, layout = append stem (.final tail) ∧ stem.whole = front := by
  induction layout generalizing front with
  | final gap => exact ⟨.final front, congrArg Layout.final eq, rfl⟩
  | spot gap word rest ih =>
      obtain ⟨behindSpot, whole⟩ := ending_whole rest
      have size := congrArg List.length eq
      have inner := congrArg List.length whole
      rw [Layout.whole, List.length_append, List.length_append, List.length_append] at size
      rw [List.length_append] at inner
      rw [ending] at fits
      have joined : (gap ++ word) ++ rest.whole = front ++ tail := by simpa [Layout.whole] using eq
      obtain ⟨later, rfl⟩ := List.prefix_of_prefix_length_le ⟨rest.whole, joined⟩ (List.prefix_append front tail)
        (by rw [List.length_append]; omega)
      rw [List.append_assoc (gap ++ word)] at joined
      obtain ⟨stem, rfl, stemWhole⟩ := ih later (List.append_cancel_left joined) fits
      exact ⟨.spot gap word stem, rfl, by simp [Layout.whole, stemWhole]⟩

theorem leading_append_final (layout : Layout) (t : Text) : (append layout (.final t)).leading = layout.leading := by
  induction layout with
  | final gap => rfl
  | spot gap word rest ih => simp [append, leading, ih]

theorem gaps_leading (layout : Layout) : layout.gaps = layout.leading ++ [layout.ending] := by
  induction layout with
  | final gap => rfl
  | spot gap word rest ih => simp [gaps, leading, ending, ih]

theorem gaps_behind (holds : Text → Prop) (t : Text) (layout : Layout) (joins : ∀ gap, holds gap → holds (t ++ gap))
    (all : ∀ gap ∈ layout.gaps, holds gap) : ∀ gap ∈ (behind t layout).gaps, holds gap := by
  cases layout with
  | final gap => simpa [behind, gaps] using joins gap (all gap (by simp [gaps]))
  | spot gap word rest =>
      obtain ⟨here, others⟩ := List.forall_mem_cons.mp all
      exact List.forall_mem_cons.mpr ⟨joins gap here, others⟩

theorem gaps_keep (holds : Text → Prop) (joins : ∀ a b, holds a → holds b → holds (a ++ b)) (qualifies : Text → Bool)
    (layout : Layout) (all : ∀ gap ∈ layout.gaps, holds gap)
    (others : ∀ word ∈ layout.spots, qualifies word = false → holds word) :
    ∀ gap ∈ (keep qualifies layout).gaps, holds gap := by
  induction layout with
  | final gap => exact all
  | spot gap word rest ih =>
      obtain ⟨first, later⟩ := List.forall_mem_cons.mp all
      obtain ⟨here, behindSpot⟩ := List.forall_mem_cons.mp others
      have kept := ih later behindSpot
      by_cases qualified : qualifies word = true
      · rw [keep, if_pos qualified]
        exact List.forall_mem_cons.mpr ⟨first, kept⟩
      · rw [keep, if_neg qualified]
        have joined := joins gap word first (here (by simpa using qualified))
        exact gaps_behind holds _ _ (fun other => joins _ other joined) kept

theorem leading_behind_filled (t : Text) (layout : Layout) (filled : ∀ gap ∈ layout.leading, gap ≠ []) :
    ∀ gap ∈ (behind t layout).leading, gap ≠ [] := by
  cases layout with
  | final gap => exact filled
  | spot gap word rest =>
      obtain ⟨here, others⟩ := List.forall_mem_cons.mp filled
      exact List.forall_mem_cons.mpr ⟨by simp [here], others⟩

theorem leading_keep_filled (qualifies : Text → Bool) (layout : Layout) (filled : ∀ gap ∈ layout.leading, gap ≠ []) :
    ∀ gap ∈ (keep qualifies layout).leading, gap ≠ [] := by
  induction layout with
  | final gap => exact filled
  | spot gap word rest ih =>
      obtain ⟨here, others⟩ := List.forall_mem_cons.mp filled
      by_cases qualified : qualifies word = true
      · rw [keep, if_pos qualified]
        exact List.forall_mem_cons.mpr ⟨here, ih others⟩
      · rw [keep, if_neg qualified]
        exact leading_behind_filled _ _ (ih others)

theorem avoids_iff (c : Char) (layout : Layout) : Avoids c layout ↔ ∀ gap ∈ layout.gaps, c ∉ gap := by
  induction layout with
  | final gap => simp [Avoids, gaps]
  | spot gap word rest ih => simp [Avoids, gaps, ih]

theorem avoids_behind (c : Char) (t : Text) (layout : Layout) (absent : c ∉ t) (avoids : Avoids c layout) :
    Avoids c (behind t layout) := by
  rw [avoids_iff] at avoids ⊢
  exact gaps_behind (c ∉ ·) t layout (fun _ => List.not_mem_append absent) avoids

theorem avoids_append (c : Char) (left right : Layout) (before : Avoids c left) (after : Avoids c right) :
    Avoids c (append left right) := by
  induction left with
  | final gap => exact avoids_behind c gap right before after
  | spot gap word rest ih => exact ⟨before.1, ih before.2⟩

theorem avoids_keep (c : Char) (qualifies : Text → Bool) (layout : Layout) (avoids : Avoids c layout)
    (others : ∀ word ∈ layout.spots, qualifies word = false → c ∉ word) : Avoids c (keep qualifies layout) := by
  rw [avoids_iff] at avoids ⊢
  exact gaps_keep (c ∉ ·) (fun _ _ => List.not_mem_append) qualifies layout avoids others

theorem site_stands (layout : Layout) (reached : Nat) (site : Site) (member : site ∈ sites reached layout) :
    ∃ left right, layout.whole = left ++ (site.word ++ right) ∧ site.position = reached + bytes left := by
  induction layout generalizing reached with
  | final gap => simp [sites] at member
  | spot gap word rest ih =>
      rcases List.mem_cons.mp member with same | later
      · subst site
        exact ⟨gap, rest.whole, rfl, rfl⟩
      · obtain ⟨left, right, eq, position⟩ := ih _ later
        refine ⟨gap ++ (word ++ left), right, by simp [whole, eq], ?_⟩
        simp only [position, bytes_append]
        omega

theorem sites_ordered (layout : Layout) (reached : Nat) :
    (sites reached layout).Pairwise fun a b => a.position + bytes a.word ≤ b.position := by
  induction layout generalizing reached with
  | final gap => exact List.Pairwise.nil
  | spot gap word rest ih =>
      refine List.Pairwise.cons ?_ (ih _)
      intro site later
      obtain ⟨left, right, _, position⟩ := site_stands rest _ site later
      simp only [position]
      omega

end Layout

end Interpolation
