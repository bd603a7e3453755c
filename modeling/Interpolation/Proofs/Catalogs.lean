import Interpolation.Proofs.RoundTrip
import Interpolation.Proofs.Running
import Interpolation.Proofs.Splicing
import Interpolation.Proofs.Trees
import Mathlib.Data.List.Induction

set_option autoImplicit false

namespace Interpolation

open Text

structure Catalog.Entry where
  id : Text
  entity : Option Entity
deriving DecidableEq, Repr

namespace Catalog

def Entry.isNamedBy (parts : List Text) (entry : Entry) : Bool := entry.entity.any fun entity => entity.isNamedBy parts

def entries (catalog : Catalog) : List Entry := catalog.ids.map fun id => ⟨id, Entity.ofId? id⟩

theorem find_entries (catalog : Catalog) (parts : List Text) :
    catalog.find? parts = (catalog.entries.find? (Entry.isNamedBy parts)).map Entry.id := by
  have kept : Entry.id ∘ (fun id => ⟨id, Entity.ofId? id⟩) = fun id : Text => id := rfl
  rw [find?, entries, List.find?_map, Option.map_map, kept, Option.map_id']
  rfl

end Catalog

theorem FileTree.written_read (tree after : FileTree) (path : Path) (text : Text)
    (written : tree.write path (.text text) = (true, after)) : after.readText? path = some text := by
  obtain ⟨location, located, vacant, rfl⟩ := write_done tree after path (.text text) written
  have same := locate_same _ tree (put_directories tree location (.text text) vacant) path
  have there := node_put_same location (.file (.text text)) tree (below_root tree location vacant)
  rw [readText?, lookup?, same, located, Option.bind_some, there]
  rfl

namespace Catalog

theorem written_spelled (catalog : Catalog) : catalog.toJson.isSpelled = true := by
  have items (ids : List Text) : Json.areSpelledItems (ids.map .string) = true := by
    induction ids with
    | nil => rfl
    | cons id rest ih => exact ih
  exact items catalog.ids

theorem read_back (catalog : Catalog) : ofJson? catalog.toJson = some catalog := by
  have items (ids : List Text) : (ids.map Json.string).mapM idOfJson? = some ids := by
    induction ids with
    | nil => rfl
    | cons id rest ih =>
        rw [List.map_cons, List.mapM_cons, ih]
        rfl
  rw [toJson, ofJson?, items]
  rfl

theorem written_loads (catalog : Catalog) (path : Path) (tree after : FileTree)
    (written : tree.write path (.text catalog.toJson.compact) = (true, after)) :
    loadIn path after = (.ok catalog, after) := by
  rw [load_in_eq, FileTree.written_read tree after path _ written]
  simp only [Json.read_compact _ catalog.written_spelled, Option.bind_some, catalog.read_back, Option.elim_some]

end Catalog

namespace Json

theorem escape_unquoted (c : Char) (other : c ≠ '"') : '"' ∉ escape c := by
  have digit (n : Nat) : hexDigit n ≠ '"' := by
    have all : ∀ m < 16, Nat.digitChar m ≠ '"' := by decide
    exact all (n % 16) (Nat.mod_lt _ (by decide))
  rw [escape, if_neg other]
  repeat' split
  all_goals simp [Ne.symm other, Ne.symm (digit _)]

theorem escape_quote (c : Char) (before after : Text) (eq : escape c = before ++ '"' :: after) :
    before.getLast? = some '\\' := by
  by_cases quoted : c = '"'
  · rw [escape, if_pos quoted] at eq
    rcases before with _ | ⟨d, _ | ⟨e, more⟩⟩
    · simp at eq
    · exact congrArg some (List.cons.inj eq).1.symm
    · simp at eq
  · exact absurd (by simp [eq]) (escape_unquoted c quoted)

theorem escaped_quote (t before after : Text) (eq : t.flatMap escape = before ++ '"' :: after) :
    before.getLast? = some '\\' := by
  induction t generalizing before with
  | nil => simp at eq
  | cons c rest ih =>
      rw [List.flatMap_cons] at eq
      rcases List.append_eq_append_iff.mp eq with ⟨inner, rfl, later⟩ | ⟨inner, here, later⟩
      · rw [List.getLast?_append, ih inner later]
        rfl
      · cases inner with
        | nil => exact absurd (ih [] later.symm) (by simp)
        | cons d inner =>
            obtain rfl : '"' = d := (List.cons.inj later).1
            exact escape_quote c before inner here

theorem escaped_injective (t u : Text) (same : t.flatMap escape = u.flatMap escape) : t = u := by
  have read := string_quoted u []
  rw [← same, string_quoted] at read
  cases read
  rfl

theorem escaped_behind (passed t u : Text) (same : passed ++ '"' :: t.flatMap escape = '"' :: u.flatMap escape) :
    (passed = [] ∧ t = u) ∨ passed.getLast? = some '\\' := by
  cases passed with
  | nil => exact .inl ⟨rfl, escaped_injective t u (List.cons.inj same).2⟩
  | cons c inner =>
      have quoted := escaped_quote u inner _ (List.cons.inj same).2.symm
      exact .inr (by simp [List.getLast?_cons, quoted])

-- The last of several quoted texts begins at the last quote that no backslash stands before.
theorem escaped_apart (front back t u : Text) (frontEnd : front.getLast? ≠ some '\\')
    (backEnd : back.getLast? ≠ some '\\')
    (same : front ++ '"' :: t.flatMap escape = back ++ '"' :: u.flatMap escape) : front = back ∧ t = u := by
  rcases List.append_eq_append_iff.mp same with ⟨passed, rfl, later⟩ | ⟨passed, rfl, later⟩
  · rcases escaped_behind passed u t later.symm with ⟨rfl, rfl⟩ | escaped
    · exact ⟨by simp, rfl⟩
    · exact absurd (by simp [List.getLast?_append, escaped]) backEnd
  · rcases escaped_behind passed t u later.symm with ⟨rfl, rfl⟩ | escaped
    · exact ⟨by simp, rfl⟩
    · exact absurd (by simp [List.getLast?_append, escaped]) frontEnd

end Json

namespace Catalog

def opened (ids : List Text) : Text := '[' :: ids.flatMap fun id => Json.quote id ++ [',']

theorem opened_concat (ids : List Text) (id : Text) :
    opened (ids ++ [id]) = opened ids ++ '"' :: id.flatMap Json.escape ++ ['"', ','] := by
  simp [opened, Json.quote]

theorem opened_ends (ids : List Text) : (opened ids).getLast? = some (if ids = [] then '[' else ',') := by
  rcases List.eq_nil_or_concat ids with rfl | ⟨front, last, rfl⟩
  · rfl
  · rw [List.concat_eq_append, opened_concat]
    simp [List.getLast?_append, List.getLast?_cons]

theorem opened_unescaped (front : Text) (ids : List Text) : (front ++ opened ids).getLast? ≠ some '\\' := by
  rw [List.getLast?_append, opened_ends, Option.some_or]
  split <;> simp

theorem compact_items (ids : List Text) (last : Text) :
    Json.compactItems ((ids ++ [last]).map .string) =
      (ids.flatMap fun id => Json.quote id ++ [',']) ++ Json.quote last := by
  induction ids with
  | nil => rfl
  | cons id rest ih =>
      have step : Json.compactItems (((id :: rest) ++ [last]).map .string) =
          Json.quote id ++ ',' :: Json.compactItems ((rest ++ [last]).map .string) := by
        cases rest <;> rfl
      rw [step, ih]
      simp

theorem compact_concat (ids : List Text) (last : Text) :
    (toJson ⟨ids ++ [last]⟩).compact = opened ids ++ '"' :: last.flatMap Json.escape ++ ['"', ']'] := by
  rw [toJson, Json.compact, compact_items]
  simp [opened, Json.quote]

theorem opened_behind (front : Text) (ids others : List Text) (same : front ++ opened ids = opened others) :
    front = [] ∧ ids = others := by
  induction ids using List.reverseRec generalizing others with
  | nil =>
      rcases List.eq_nil_or_concat others with rfl | ⟨rest, last, rfl⟩
      · exact ⟨by simpa using same, rfl⟩
      · have ends := congrArg List.getLast? same
        rw [List.getLast?_append, opened_ends, opened_ends] at ends
        simp at ends
  | append_singleton ids id ih =>
      rcases List.eq_nil_or_concat others with rfl | ⟨rest, last, rfl⟩
      · have ends := congrArg List.getLast? same
        rw [List.getLast?_append, opened_ends, opened_ends] at ends
        simp at ends
      · rw [List.concat_eq_append, opened_concat, opened_concat, ← List.append_assoc] at same
        have inner := List.append_cancel_right same
        rw [← List.append_assoc] at inner
        obtain ⟨openings, rfl⟩ :=
          Json.escaped_apart _ _ id last (opened_unescaped front ids) (opened_unescaped [] rest) inner
        obtain ⟨rfl, rfl⟩ := ih rest openings
        exact ⟨rfl, by simp⟩

theorem compact_cases (catalog : Catalog) :
    (catalog.ids = [] ∧ catalog.toJson.compact = ['[', ']']) ∨
      ∃ stem, catalog.toJson.compact = stem ++ ['"', ']'] ∧ opened catalog.ids = stem ++ ['"', ','] := by
  obtain ⟨ids⟩ := catalog
  rcases List.eq_nil_or_concat ids with rfl | ⟨front, last, rfl⟩
  · exact .inl ⟨rfl, rfl⟩
  · rw [List.concat_eq_append, compact_concat]
    exact .inr ⟨_, rfl, opened_concat front last⟩

theorem compact_behind (front : Text) (catalog other : Catalog)
    (same : front ++ catalog.toJson.compact = other.toJson.compact) : front = [] ∧ catalog = other := by
  rcases compact_cases catalog with ⟨none, text⟩ | ⟨stem, text, opening⟩
  · rcases compact_cases other with ⟨others, longer⟩ | ⟨stem, longer, _⟩
    · rw [text, longer] at same
      have size := congrArg List.length same
      rw [List.length_append] at size
      exact ⟨List.eq_nil_of_length_eq_zero (by omega), congrArg mk (none.trans others.symm)⟩
    · rw [text, longer] at same
      exact absurd (List.append_inj' same rfl).2 (by decide)
  · rw [text, ← List.append_assoc] at same
    rcases compact_cases other with ⟨_, longer⟩ | ⟨stem, longer, others⟩
    · rw [longer] at same
      have bare : (front ++ stem) ++ ['"', ']'] = [] ++ ['[', ']'] := same
      exact absurd (List.append_inj' bare rfl).2 (by decide)
    · rw [longer] at same
      have stems := (List.append_inj' same rfl).1
      have openings : front ++ opened catalog.ids = opened other.ids := by
        rw [opening, others, ← stems, List.append_assoc]
      obtain ⟨rfl, ids⟩ := opened_behind front catalog.ids other.ids openings
      exact ⟨rfl, congrArg mk ids⟩

end Catalog

theorem Failure.unknown_message (input shown : Text) (catalog other : Catalog)
    (same : (unknown input catalog).message = (unknown shown other).message) : input = shown ∧ catalog = other := by
  have whole : "unknown reference: ".toList ++ input ++ " was not found in ".toList ++ catalog.toJson.compact =
      "unknown reference: ".toList ++ shown ++ " was not found in ".toList ++ other.toJson.compact := same
  have fronts : "unknown reference: ".toList ++ input ++ " was not found in ".toList =
      "unknown reference: ".toList ++ shown ++ " was not found in ".toList ∧ catalog = other := by
    rcases List.append_eq_append_iff.mp whole with ⟨passed, front, later⟩ | ⟨passed, front, later⟩
    · obtain ⟨rfl, listed⟩ := Catalog.compact_behind passed other catalog later.symm
      exact ⟨by simpa using front.symm, listed.symm⟩
    · obtain ⟨rfl, listed⟩ := Catalog.compact_behind passed catalog other later.symm
      exact ⟨by simpa using front, listed⟩
  exact ⟨List.append_cancel_left (List.append_cancel_right fronts.1), fronts.2⟩

theorem references_unknown (catalog listed : Catalog) (input shown : Text)
    (failed : catalog.references input = .error (.unknown shown listed)) : shown = input ∧ listed = catalog := by
  rw [Catalog.references] at failed
  by_cases splatted : contains splat input = true
  · simp [splatted] at failed
  · rw [if_neg splatted] at failed
    by_cases plain : (!isInterpolated input) = true
    · rw [if_pos plain] at failed
      cases failed
    · rw [if_neg plain] at failed
      cases found : catalog.resolve? input 0 (mentions input) with
      | some references => simp [found] at failed
      | none =>
          rw [found] at failed
          cases failed
          exact ⟨rfl, rfl⟩

theorem convert_unknown (resolver : Resolver) (listed : Catalog) (input shown : Text)
    (failed : (resolver.convert input).result = .error (.unknown shown listed)) :
    shown = input ∧ listed = resolver.catalog := by
  cases found : resolver.references input with
  | error failure =>
      rw [convert_failed resolver input failure found] at failed
      cases failed
      exact references_unknown resolver.catalog listed input shown found
  | ok references =>
      rw [convert_found resolver input references found] at failed
      obtain ⟨_, _, _, other⟩ := composed_failure _ input references _ failed
      cases other

namespace Catalog

/-- A catalog written to a file is loaded from there as it was, entry by entry, and what is looked up is its first
entry that is named. An unknown reference is reported with the input and the catalog that was searched, and no other
input or catalog is reported in the same words. -/
theorem catalogs_reload (catalog : Catalog) :
    (∀ path tree after, FileTree.write path (.text catalog.toJson.compact) tree = (true, after) →
      loadIn path after = (.ok catalog, after)) ∧
    (∀ parts, catalog.find? parts = (catalog.entries.find? (Entry.isNamedBy parts)).map Entry.id) ∧
    (∀ settings input shown listed,
      (Resolver.convert ⟨catalog, settings⟩ input).result = .error (.unknown shown listed) →
        shown = input ∧ listed = catalog) ∧
    ∀ input shown other, (Failure.unknown input catalog).message = (Failure.unknown shown other).message →
      input = shown ∧ catalog = other := by
  refine ⟨catalog.written_loads, catalog.find_entries, ?_, ?_⟩
  · intro settings input shown listed failed
    exact convert_unknown ⟨catalog, settings⟩ listed input shown failed
  · intro input shown other same
    exact Failure.unknown_message input shown catalog other same

theorem catalogs_reload_quoted :
    let catalog : Catalog := ⟨["".toList, "var.\"\\é\n\x01".toList, "x was not found in [\"y\"]".toList, "".toList]⟩
    let other : Catalog := ⟨["y".toList]⟩
    let path : Path := "ids.json".toList
    let after := (FileTree.empty.write path (.text catalog.toJson.compact)).2
    let input : Text := "${a.b}".toList
    FileTree.empty.write path (.text catalog.toJson.compact) = (true, after) ∧
      loadIn path after = (.ok catalog, after) ∧
      (Resolver.convert ⟨catalog, {}⟩ input).result = .error (.unknown input catalog) ∧
      (Resolver.convert ⟨catalog, {}⟩ input).result ≠ .error (.unknown input other) ∧
      ∀ shown, (Failure.unknown input catalog).message ≠ (Failure.unknown shown other).message := by
  intro catalog other path after input
  obtain ⟨loads, _, reported, told⟩ := catalogs_reload catalog
  have written : FileTree.empty.write path (.text catalog.toJson.compact) = (true, after) := by decide +kernel
  have failed : (Resolver.convert ⟨catalog, {}⟩ input).result = .error (.unknown input catalog) := rfl
  refine ⟨written, loads path FileTree.empty after written, failed, ?_, ?_⟩
  · intro refused
    exact absurd (reported {} input input other refused).2 (by decide)
  · intro shown same
    exact absurd (told input shown other same).2 (by decide)

end Catalog

end Interpolation
