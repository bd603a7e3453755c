import Interpolation.Codec.Expression
import Mathlib.Data.List.Forall2

set_option autoImplicit false

/- How deep arrays and objects stand inside one another. What is written for an expression is never deeper than what
   it was read from. -/
namespace Interpolation

namespace Json

theorem items_height_le (items : List Json) (bound : Nat) :
    itemsHeight items ≤ bound ↔ ∀ item ∈ items, item.height ≤ bound := by
  induction items with
  | nil => simp [itemsHeight]
  | cons item rest ih => rw [itemsHeight, Nat.max_le, ih, List.forall_mem_cons]

theorem members_height_le (members : List (Text × Json)) (bound : Nat) :
    membersHeight members ≤ bound ↔ ∀ entry ∈ members, entry.2.height ≤ bound := by
  induction members with
  | nil => simp [membersHeight]
  | cons entry rest ih => rw [membersHeight, Nat.max_le, ih, List.forall_mem_cons]

theorem map_read {α β : Type} (f : α → Option β) (l : List α) (read : List β) (eq : l.mapM f = some read) :
    List.Forall₂ (fun a b => f a = some b) l read := by
  induction l generalizing read with
  | nil =>
      cases eq
      exact .nil
  | cons a rest ih =>
      rw [List.mapM_cons] at eq
      obtain ⟨b, first, eq⟩ := Option.bind_eq_some_iff.mp eq
      obtain ⟨others, later, eq⟩ := Option.bind_eq_some_iff.mp eq
      cases eq
      exact .cons first (ih others later)

theorem map_origin {α β : Type} (f : α → Option β) (l : List α) (read : List β) (eq : l.mapM f = some read) (b : β)
    (member : b ∈ read) : ∃ a, f a = some b := by
  have paired := map_read f l read eq
  clear eq
  induction paired with
  | nil => cases member
  | cons first _ ih =>
      rcases List.mem_cons.mp member with rfl | later
      · exact ⟨_, first⟩
      · exact ih later

theorem field_height (members : List (Text × Json)) (name : Text) (value : Json)
    (found : field? members name = some (some value)) : value.height ≤ membersHeight members := by
  have each := (members_height_le members _).mp (Nat.le_refl _)
  cases same : members.filter fun entry => entry.1 == name with
  | nil => simp [field?, same] at found
  | cons entry rest =>
      cases rest with
      | nil =>
          have member : entry ∈ members := List.mem_of_mem_filter (by rw [same]; exact List.mem_singleton_self entry)
          rw [field?, same] at found
          cases found
          exact each entry member
      | cons => simp [field?, same] at found

theorem fields_height (names : List Text) (json : Json) (fields : List (Option Json))
    (read : json.fields? names = some fields) (value : Json) (member : some value ∈ fields) :
    value.height < json.height := by
  cases json with
  | object members =>
      obtain ⟨name, found⟩ := map_origin _ names fields read (some value) member
      exact Nat.lt_succ_of_le (field_height members name value found)
  | array items =>
      by_cases short : items.length ≤ names.length
      · rw [fields?, if_pos short] at read
        cases read
        have inside : value ∈ items := by simpa using member
        exact Nat.lt_succ_of_le ((items_height_le items _).mp (Nat.le_refl _) value inside)
      · rw [fields?, if_neg short] at read
        cases read
  | null => cases read
  | bool => cases read
  | number => cases read
  | string => cases read
  | illFormed => cases read

end Json

open Json

theorem Quasi.read_deep (json : Json) (quasi : Quasi) (read : Quasi.ofJson? json = some quasi) :
    quasi.toJson.height ≤ json.height := by
  rw [Quasi.ofJson?] at read
  split at read
  · rename_i raw tail fields
    have inside := fields_height _ json _ fields (.string raw) (by simp)
    exact Nat.lt_of_le_of_lt (Nat.zero_le _) inside
  · cases read

namespace Expression

theorem items_written (expressions : List Expression) : itemsToJson expressions = expressions.map toJson := by
  induction expressions with
  | nil => rfl
  | cons expression rest ih => rw [itemsToJson, ih, List.map_cons]

theorem tagged_height (json tag record : Json) (read : tagged? json = some (tag, record)) :
    record.height ≤ json.height := by
  cases json with
  | object members =>
      rw [tagged?] at read
      split at read
      · rename_i others parted
        cases read
        have rest : members.filter (fun entry => !(entry.1 == tagField)) = others := by
          simpa [List.partition_eq_filter_filter, Function.comp_def] using congrArg Prod.snd parted
        have each := (members_height_le members _).mp (Nat.le_refl _)
        apply Nat.succ_le_succ
        rw [members_height_le]
        intro entry member
        rw [← rest] at member
        exact each entry (List.mem_of_mem_filter member)
      · cases read
  | array items =>
      cases items with
      | nil => cases read
      | cons tag items =>
          cases read
          exact Nat.succ_le_succ (Nat.le_max_right ..)
  | null => cases read
  | bool => cases read
  | number => cases read
  | string => cases read
  | illFormed => cases read

end Expression

theorem items_read_deep {α : Type} (toJson : α → Json) (ofJson? : Json → Option α)
    (each : ∀ json a, ofJson? json = some a → (toJson a).height ≤ json.height) (items : List Json) (values : List α)
    (read : items.mapM ofJson? = some values) : itemsHeight (values.map toJson) ≤ itemsHeight items := by
  have paired := map_read ofJson? items values read
  clear read
  induction paired with
  | nil => exact Nat.le_refl _
  | cons first _ ih =>
      rw [List.map_cons, itemsHeight, itemsHeight]
      exact Nat.max_le.mpr ⟨Nat.le_trans (each _ _ first) (Nat.le_max_left ..), Nat.le_trans ih (Nat.le_max_right ..)⟩

theorem Expression.read_deep (depth : Nat) (inner : Bool) (json : Json) (expression : Expression)
    (read : read? depth inner json = some expression) : expression.toJson.height ≤ json.height := by
  induction depth generalizing inner json expression with
  | zero => cases read
  | succ depth ih =>
      obtain ⟨⟨tag, record⟩, tagged, opened⟩ := Option.bind_eq_some_iff.mp read
      obtain ⟨form, formed, chosen⟩ := Option.bind_eq_some_iff.mp opened
      obtain ⟨fields, found, made⟩ := Option.bind_eq_some_iff.mp chosen
      have whole := tagged_height json tag record tagged
      have inside := fields_height _ record fields found
      clear read opened chosen
      split at made
      · rename_i value
        cases made
        have below := inside (.string value) (by simp)
        have height : (toJson (.literal value)).height = 1 := rfl
        omega
      · rename_i name
        cases made
        have below := inside (.string name) (by simp)
        have height : (toJson (.identifier name)).height = 1 := rfl
        omega
      · rename_i object property
        obtain ⟨base, readBase, made⟩ := Option.bind_eq_some_iff.mp made
        cases made
        have deep := ih true object base readBase
        have below := inside object (by simp)
        have height : (toJson (.member base property)).height = base.toJson.height + 1 := by
          simp [toJson, Json.height, membersHeight]
        omega
      · rename_i quasis expressions
        obtain ⟨pieces, readPieces, made⟩ := Option.bind_eq_some_iff.mp made
        obtain ⟨values, readValues, made⟩ := Option.bind_eq_some_iff.mp made
        cases made
        have deepPieces := items_read_deep Quasi.toJson Quasi.ofJson? Quasi.read_deep quasis pieces readPieces
        have deepValues := items_read_deep toJson (read? depth true) (ih true) expressions values readValues
        have belowPieces := inside (.array quasis) (by simp)
        have belowValues := inside (.array expressions) (by simp)
        have height : (toJson (.template pieces values)).height =
            max (itemsHeight (pieces.map Quasi.toJson) + 1) (itemsHeight (values.map toJson) + 1) + 1 := by
          simp [toJson, Json.height, membersHeight, items_written]
        simp only [Json.height] at belowPieces belowValues
        omega
      · cases made

end Interpolation
