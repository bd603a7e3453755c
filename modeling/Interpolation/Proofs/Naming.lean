import Interpolation.Proofs.Outcomes

set_option autoImplicit false

namespace Interpolation

open Text

def Expression.base? (expression : Expression) : Option Text := (Expression.path? expression).bind List.head?

theorem chain_base (reference : Reference) : (chain reference).base? = some (entityName reference.target.full) := by
  rw [Expression.base?, chain, Expression.path_access _ _ _ rfl]
  rfl

namespace Entity

theorem named_front (entity : Entity) (parts : List Text) (named : parts.take entity.reach = entity.address) :
    parts.take 2 = entity.address.take 2 := by
  rw [← named, List.take_take, Nat.min_eq_left entity.reach_two]

theorem id_front (id : Text) (entity : Entity) (parsed : ofId? id = some entity) :
    (segments id).take 2 = entity.address.take 2 :=
  entity.named_front (segments id) (of_segments_read (segments id) entity parsed).address.symm

end Entity

theorem match_front (parts : List Text) (id : Text) (matching : Catalog.isMatch parts id = true) :
    parts.take 2 = (segments id).take 2 := by
  obtain ⟨entity, parsed, named⟩ := (Option.any_eq_true _ _).mp matching
  rw [Entity.id_front id entity parsed]
  exact entity.named_front parts (beq_iff_eq.mp named)

theorem entity_name_front (a b : Text) (same : (segments a).take 2 = (segments b).take 2) :
    entityName a = entityName b := by
  have first : (segments a).head? = (segments b).head? := by
    simpa [List.head?_take] using congrArg List.head? same
  have second : (segments a)[1]? = (segments b)[1]? := by
    have inside : 1 < 2 := by decide
    rw [← List.getElem?_take_of_lt inside, same, List.getElem?_take_of_lt inside]
  rw [entityName, entityName, first, second]

theorem references_first (catalog : Catalog) (input : Text) (references : List Reference)
    (found : catalog.references input = .ok references) (reference : Reference) (member : reference ∈ references) :
    catalog.FirstMatch reference.target.full reference.target.id := by
  rcases references_resolved catalog input references found with ⟨_, rfl⟩ | ⟨_, resolved⟩
  · cases member
  · have targeted := catalog.resolve_targets input 0 (mentions input) references resolved
    exact (targets_named catalog (mentions input) references targeted).first reference member

theorem base_of_id (catalog : Catalog) (input : Text) (references : List Reference)
    (found : catalog.references input = .ok references) (reference : Reference) (member : reference ∈ references) :
    (chain reference).base? = some (entityName reference.target.id) := by
  obtain ⟨_, _, _, matching, _⟩ := references_first catalog input references found reference member
  rw [chain_base, entity_name_front _ _ (match_front _ _ matching)]

/-- A reference has an identifier of the catalog, and its chain begins with the name made of that identifier. Two
references begin alike when their identifiers are read as the same entity, whichever catalogs and inputs they come from,
whatever properties are accessed and however many segments the identifiers have. -/
theorem one_name_for_entity (catalog : Catalog) (input : Text) (references : List Reference)
    (found : catalog.references input = .ok references) (reference : Reference) (member : reference ∈ references) :
    reference.target.id ∈ catalog.ids ∧
    (chain reference).base? = some (entityName reference.target.id) ∧
    ∀ (elsewhere : Catalog) (text : Text) (others : List Reference), elsewhere.references text = .ok others →
      ∀ other ∈ others, Entity.ofId? reference.target.id = Entity.ofId? other.target.id →
        (chain reference).base? = (chain other).base? := by
  obtain ⟨before, after, ids, matching, _⟩ := references_first catalog input references found reference member
  refine ⟨by simp [ids], base_of_id catalog input references found reference member, ?_⟩
  intro elsewhere text others foundToo other memberToo same
  obtain ⟨entity, parsed, _⟩ := (Option.any_eq_true _ _).mp matching
  have front : (segments reference.target.id).take 2 = (segments other.target.id).take 2 := by
    rw [Entity.id_front _ entity parsed, Entity.id_front _ entity (same.symm.trans parsed)]
  rw [base_of_id catalog input references found reference member,
    base_of_id elsewhere text others foundToo other memberToo, entity_name_front _ _ front]

theorem one_name_for_data_source :
    let reference := Reference.anchored 2 "data.aws_ami.web".toList "data.aws_ami.web.id".toList
    let other := Reference.anchored 8 "data.aws_ami.web.image".toList "data.aws_ami.web".toList
    (chain reference).base? = some "dataAwsAmi".toList ∧ (chain reference).base? = (chain other).base? := by
  intro reference other
  have found : (Catalog.mk ["data.aws_ami.web".toList]).references "${data.aws_ami.web.id}".toList =
      .ok [reference] := rfl
  have foundToo : (Catalog.mk ["var.a".toList, "data.aws_ami.web.image".toList]).references
      "${lower(data.aws_ami.web)}".toList = .ok [other] := rfl
  obtain ⟨_, base, alike⟩ := one_name_for_entity _ _ _ found reference (List.mem_singleton_self reference)
  exact ⟨base, alike _ _ _ foundToo other (List.mem_singleton_self other) rfl⟩

end Interpolation
