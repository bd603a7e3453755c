import Interpolation.Catalog

set_option autoImplicit false

namespace Interpolation

open Text

namespace Entity

theorem word_of_kind (t : Text) (kind : Kind) (known : Kind.ofWord? t = some kind) : kind.word = t := by
  have same := List.find?_some known
  exact beq_iff_eq.mp same

theorem reach_two (entity : Entity) : 2 ≤ entity.reach := by
  cases entity <;> simp [reach]

theorem of_segments_some_iff (parts : List Text) : (ofSegments? parts).isSome = true ↔ 2 ≤ parts.length := by
  match parts with
  | [] => simp [ofSegments?]
  | [only] => simp [ofSegments?]
  | first :: second :: rest =>
      cases known : Kind.ofWord? first with
      | none => simp [ofSegments?, known]
      | some kind => cases kind <;> simp [ofSegments?, known]

def counted (parts : List Text) : Nat := if parts.head? = some Kind.data.word then 3 else 2

structure ReadFrom (parts : List Text) (entity : Entity) : Prop where
  reach : entity.reach = counted parts
  address : entity.address = parts.take entity.reach
  again : ofSegments? entity.address = some entity

theorem of_segments_read (parts : List Text) (entity : Entity) (parsed : ofSegments? parts = some entity) :
    ReadFrom parts entity := by
  match parts with
  | [] => simp [ofSegments?] at parsed
  | [only] => simp [ofSegments?] at parsed
  | first :: second :: rest =>
      cases known : Kind.ofWord? first with
      | none =>
          have other : first ≠ Kind.data.word := by
            intro same
            rw [same] at known
            cases known
          rw [ofSegments?, known] at parsed
          cases parsed
          exact ⟨by simp [Entity.reach, counted, other], rfl, by rw [address, ofSegments?, known]⟩
      | some kind =>
          obtain rfl := word_of_kind first kind known
          rw [ofSegments?, known] at parsed
          cases kind with
          | data =>
              cases parsed
              cases rest <;> exact ⟨rfl, rfl, rfl⟩
          | resource | input | localValue | moduleCall =>
              cases parsed
              exact ⟨rfl, rfl, rfl⟩

def Agrees (parts : List Text) : Entity → Prop
  | .resource type name => parts[0]? = some type ∧ parts[1]? = some name
  | .data type name => parts[0]? = some Kind.data.word ∧ parts[1]? = some type ∧ parts[2]? = name
  | .input name => parts[0]? = some Kind.input.word ∧ parts[1]? = some name
  | .localValue name => parts[0]? = some Kind.localValue.word ∧ parts[1]? = some name
  | .moduleCall name => parts[0]? = some Kind.moduleCall.word ∧ parts[1]? = some name

theorem take_two_iff (parts : List Text) (a b : Text) :
    parts.take 2 = [a, b] ↔ parts[0]? = some a ∧ parts[1]? = some b := by
  match parts with
  | [] => simp
  | [only] => simp
  | first :: second :: rest => simp

theorem take_three_iff (parts : List Text) (a b : Text) (name : Option Text) :
    parts.take 3 = a :: b :: name.toList ↔ parts[0]? = some a ∧ parts[1]? = some b ∧ parts[2]? = name := by
  match parts with
  | [] => simp
  | [only] => simp
  | [first, second] => cases name <;> simp
  | first :: second :: third :: rest => cases name <;> simp

theorem named_agrees (entity : Entity) (parts : List Text) : entity.isNamedBy parts = true ↔ entity.Agrees parts := by
  rw [isNamedBy, beq_iff_eq]
  cases entity with
  | data type name => exact take_three_iff parts Kind.data.word type name
  | resource type name => exact take_two_iff parts type name
  | input name => exact take_two_iff parts Kind.input.word name
  | localValue name => exact take_two_iff parts Kind.localValue.word name
  | moduleCall name => exact take_two_iff parts Kind.moduleCall.word name

end Entity

def SameFront (id : Text) (parts : List Text) : Prop :=
  2 ≤ (segments id).length ∧
    (segments id).take (Entity.counted (segments id)) = parts.take (Entity.counted (segments id))

instance (id : Text) (parts : List Text) : Decidable (SameFront id parts) := inferInstanceAs (Decidable (_ ∧ _))

theorem named_front_iff (id : Text) (entity : Entity) (parts : List Text) (parsed : Entity.ofId? id = some entity) :
    entity.isNamedBy parts = true ↔ SameFront id parts := by
  have read := Entity.of_segments_read (segments id) entity parsed
  have filled : 2 ≤ (segments id).length := by
    rw [← Entity.of_segments_some_iff, ← Entity.ofId?, parsed, Option.isSome_some]
  rw [Entity.isNamedBy, beq_iff_eq, read.address, read.reach, SameFront]
  constructor
  · intro same
    exact ⟨filled, same.symm⟩
  · intro front
    exact front.2.symm

theorem match_iff (id : Text) (parts : List Text) : Catalog.isMatch parts id = true ↔ SameFront id parts := by
  cases parsed : Entity.ofId? id with
  | none =>
      have short : ¬ 2 ≤ (segments id).length := by
        rw [← Entity.of_segments_some_iff, ← Entity.ofId?, parsed]
        simp
      simp [Catalog.isMatch, parsed, SameFront, short]
  | some entity => rw [Catalog.isMatch, parsed, Option.any_some, named_front_iff id entity parts parsed]

theorem read_front_iff (id : Text) (parts : List Text) :
    (∃ entity, Entity.ofId? id = some entity ∧ entity.isNamedBy parts = true) ↔ SameFront id parts := by
  rw [← match_iff, Catalog.isMatch, Option.any_eq_true]

theorem front_counted (id : Text) (parts : List Text) (front : SameFront id parts) :
    Entity.counted (segments id) = Entity.counted parts := by
  have positive : Entity.counted (segments id) ≠ 0 := by
    rw [Entity.counted]
    split <;> simp
  have first := congrArg List.head? front.2
  rw [List.head?_take, List.head?_take, if_neg positive, if_neg positive] at first
  rw [Entity.counted, Entity.counted, first]

theorem front_address (id : Text) (entity : Entity) (parts : List Text) (parsed : Entity.ofId? id = some entity)
    (front : SameFront id parts) : entity.address = parts.take (Entity.counted parts) := by
  have read := Entity.of_segments_read (segments id) entity parsed
  rw [read.address, read.reach, front.2, front_counted id parts front]

theorem front_entity (a b : Text) (parts : List Text) (left : SameFront a parts) (right : SameFront b parts) :
    Entity.ofId? a = Entity.ofId? b := by
  obtain ⟨first, parsed, _⟩ := (read_front_iff a parts).mpr left
  obtain ⟨second, other, _⟩ := (read_front_iff b parts).mpr right
  calc Entity.ofId? a = some first := parsed
    _ = Entity.ofSegments? first.address := (Entity.of_segments_read _ first parsed).again.symm
    _ = Entity.ofSegments? second.address := by
        rw [front_address a first parts parsed left, front_address b second parts other right]
    _ = some second := (Entity.of_segments_read _ second other).again
    _ = Entity.ofId? b := other.symm

theorem front_unnamed (id type : Text) (parts : List Text) (short : segments id = [Kind.data.word, type]) :
    SameFront id parts ↔ parts = [Kind.data.word, type] := by
  rw [SameFront, short]
  constructor
  · intro front
    have same : [Kind.data.word, type] = parts.take 3 := front.2
    have size := congrArg List.length same
    rw [List.length_take] at size
    rw [same, List.take_of_length_le (by simp at size; omega)]
  · intro same
    rw [same]
    exact ⟨Nat.le_refl _, rfl⟩

namespace Catalog

theorem find_first_iff (catalog : Catalog) (parts : List Text) (id : Text) :
    catalog.find? parts = some id ↔ ∃ before after, catalog.ids = before ++ id :: after ∧
      isMatch parts id = true ∧ ∀ other ∈ before, isMatch parts other = false := by
  simp only [find?, List.find?_eq_some_iff_append, Bool.not_eq_true', exists_and_right]
  constructor
  · intro found
    obtain ⟨matching, before, ⟨after, ids⟩, others⟩ := found
    exact ⟨before, ⟨after, ids⟩, matching, others⟩
  · intro first
    obtain ⟨before, ⟨after, ids⟩, matching, others⟩ := first
    exact ⟨matching, before, ⟨after, ids⟩, others⟩

theorem find_lacking_iff (catalog : Catalog) (parts : List Text) :
    catalog.find? parts = none ↔ ∀ id ∈ catalog.ids, isMatch parts id = false := by
  simp [find?]

theorem find_front_iff (catalog : Catalog) (parts : List Text) (id : Text) :
    catalog.find? parts = some id ↔ ∃ before after, catalog.ids = before ++ id :: after ∧
      SameFront id parts ∧ ∀ other ∈ before, ¬ SameFront other parts := by
  simp only [find_first_iff, ← match_iff, Bool.not_eq_true]

theorem find_no_front_iff (catalog : Catalog) (parts : List Text) :
    catalog.find? parts = none ↔ ∀ id ∈ catalog.ids, ¬ SameFront id parts := by
  simp only [find_lacking_iff, ← match_iff, Bool.not_eq_true]

theorem find_entity (catalog : Catalog) (parts : List Text) (id : Text) (member : id ∈ catalog.ids)
    (front : SameFront id parts) : (catalog.find? parts).map Entity.ofId? = some (Entity.ofId? id) := by
  cases found : catalog.find? parts with
  | none => exact absurd front ((catalog.find_no_front_iff parts).mp found id member)
  | some first =>
      obtain ⟨_, _, _, shared, _⟩ := (catalog.find_front_iff parts first).mp found
      exact congrArg some (front_entity first id parts shared front)

theorem find_reordered (catalog other : Catalog) (parts : List Text) (reordered : other.ids.Perm catalog.ids) :
    (other.find? parts).map Entity.ofId? = (catalog.find? parts).map Entity.ofId? := by
  cases found : catalog.find? parts with
  | none =>
      have absent := (catalog.find_no_front_iff parts).mp found
      have nowhere : other.find? parts = none :=
        (other.find_no_front_iff parts).mpr fun id member => absent id (reordered.mem_iff.mp member)
      rw [nowhere]
  | some id =>
      obtain ⟨before, after, ids, front, _⟩ := (catalog.find_front_iff parts id).mp found
      have member : id ∈ other.ids := reordered.mem_iff.mpr (by simp [ids])
      exact other.find_entity parts id member front

end Catalog

/-- An identifier names an address just when it has two segments and its first three, for a data source, or two are
those of the address; so a data source without a name is named by its own two segments alone. A lookup gives the first
identifier that names the address. Those that name one address are read as one entity, so the order of a catalog
decides no more than the spelling. -/
theorem matching_by_front (catalog : Catalog) (id : Text) (parts : List Text) :
    ((∃ entity, Entity.ofId? id = some entity ∧ entity.isNamedBy parts = true) ↔ SameFront id parts) ∧
    (∀ entity : Entity, entity.isNamedBy parts = true ↔ entity.Agrees parts) ∧
    (∀ type, segments id = [Kind.data.word, type] → (SameFront id parts ↔ parts = segments id)) ∧
    (catalog.find? parts = some id ↔ ∃ before after, catalog.ids = before ++ id :: after ∧ SameFront id parts ∧
      ∀ other ∈ before, ¬ SameFront other parts) ∧
    (catalog.find? parts = none ↔ ∀ other ∈ catalog.ids, ¬ SameFront other parts) ∧
    (id ∈ catalog.ids → 2 ≤ (segments id).length →
      ∃ found, catalog.find? (segments id) = some found ∧ Entity.ofId? found = Entity.ofId? id) ∧
    (∀ a ∈ catalog.ids, ∀ b ∈ catalog.ids, Catalog.isMatch parts a = true → Catalog.isMatch parts b = true →
      Entity.ofId? a = Entity.ofId? b) ∧
    ∀ other : Catalog, other.ids.Perm catalog.ids →
      (other.find? parts).map Entity.ofId? = (catalog.find? parts).map Entity.ofId? := by
  refine ⟨read_front_iff id parts, fun entity => entity.named_agrees parts, ?_, catalog.find_front_iff parts id,
    catalog.find_no_front_iff parts, ?_, ?_, fun other => catalog.find_reordered other parts⟩
  · intro type short
    rw [short]
    exact front_unnamed id type parts short
  · intro member filled
    exact Option.map_eq_some_iff.mp (catalog.find_entity (segments id) id member ⟨filled, rfl⟩)
  · intro a _ b _ left right
    exact front_entity a b parts ((match_iff a parts).mp left) ((match_iff b parts).mp right)

theorem matching_by_front_data :
    let catalog : Catalog :=
      ⟨["aws_ami".toList, "data.aws_ami".toList, "data.aws_ami.web.id".toList, "data.aws_ami.web".toList]⟩
    let parts : List Text := segments "data.aws_ami.web.arn".toList
    ¬ SameFront "data.aws_ami".toList parts ∧ catalog.find? parts = some "data.aws_ami.web.id".toList ∧
      (∃ found, catalog.find? (segments "data.aws_ami.web".toList) = some found ∧
        Entity.ofId? found = some (.data "aws_ami".toList (some "web".toList))) ∧
      Entity.ofId? "data.aws_ami.web.id".toList = Entity.ofId? "data.aws_ami.web".toList ∧
      (Catalog.find? ⟨catalog.ids.reverse⟩ parts).map Entity.ofId? = (catalog.find? parts).map Entity.ofId? := by
  intro catalog parts
  obtain ⟨_, _, unnamed, _⟩ := matching_by_front catalog "data.aws_ami".toList parts
  obtain ⟨_, _, _, _, _, own, alike, reordered⟩ := matching_by_front catalog "data.aws_ami.web".toList parts
  have named : ¬ parts = segments "data.aws_ami".toList := by decide
  have short : "data.aws_ami.web".toList ∈ catalog.ids := by decide
  have long : "data.aws_ami.web.id".toList ∈ catalog.ids := by decide
  exact ⟨fun front => named ((unnamed "aws_ami".toList rfl).mp front), rfl, own short (by decide),
    alike _ long _ short rfl rfl, reordered _ (List.reverse_perm catalog.ids)⟩

end Interpolation
