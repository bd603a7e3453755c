import Interpolation.Proofs.RoundTrip
import Interpolation.Proofs.Running
import Interpolation.Proofs.Saving

set_option autoImplicit false

namespace Interpolation

open Text

namespace FileTree

def replaced (beside place : Location) (content : Content) (tree : FileTree) : FileTree :=
  (tree.erase beside).put place (.file content)

theorem erase_put (location : Location) (node : Node) (tree : FileTree) :
    (tree.put location node).erase location = tree.erase location := by
  simp [erase, put]

theorem erase_twice (location : Location) (tree : FileTree) :
    (tree.erase location).erase location = tree.erase location := by
  simp [erase]

theorem erase_comm (a b : Location) (tree : FileTree) : (tree.erase a).erase b = (tree.erase b).erase a := by
  simp only [erase, List.filter_filter, Bool.and_comm]

theorem replaced_again (beside place : Location) (early late : Content) (tree : FileTree) :
    (tree.replaced beside place early).replaced beside place late = tree.replaced beside place late := by
  have cleared : ((tree.replaced beside place early).erase beside).erase place = (tree.erase beside).erase place := by
    rw [erase_comm, replaced, erase_put, erase_comm, erase_twice]
  rw [replaced, put, cleared]
  rfl

theorem replaced_place (beside place : Location) (content : Content) (tree : FileTree) (below : place ≠ []) :
    (tree.replaced beside place content).node? place = some (.file content) :=
  node_put_same place _ _ below

theorem replaced_beside (beside place : Location) (content : Content) (tree : FileTree) (below : beside ≠ [])
    (apart : beside ≠ place) : (tree.replaced beside place content).node? beside = none := by
  rw [replaced, node_put_other place beside _ _ apart, node_erase_same tree beside below]

theorem replaced_other (beside place location : Location) (content : Content) (tree : FileTree)
    (elsewhere : location ≠ place) (apart : location ≠ beside) :
    (tree.replaced beside place content).node? location = tree.node? location := by
  rw [replaced, node_put_other place location _ _ elsewhere, node_erase_other beside location tree apart]

-- A path and the temporary one beside it lead to two locations, or to one, and no directory is there.
structure Room (tree : FileTree) (path : Path) (beside place : Location) : Prop where
  temporary : tree.locate? (Path.withExtension "tmp".toList path) = some beside
  target : tree.locate? path = some place
  besideVacant : tree.isDirectory beside = false
  placeVacant : tree.isDirectory place = false

theorem room_same (tree other : FileTree) (path : Path) (beside place : Location) (room : tree.Room path beside place)
    (same : ∀ location, tree.isDirectory location = other.isDirectory location) : other.Room path beside place :=
  ⟨locate_same tree other same _ ▸ room.temporary, locate_same tree other same path ▸ room.target,
    same beside ▸ room.besideVacant, same place ▸ room.placeVacant⟩

theorem replaced_directories (tree : FileTree) (path : Path) (beside place : Location) (content : Content)
    (room : tree.Room path beside place) (location : Location) :
    tree.isDirectory location = (tree.replaced beside place content).isDirectory location := by
  have erased := erase_directories tree beside room.besideVacant
  have vacant : (tree.erase beside).isDirectory place = false := by rw [erased, room.placeVacant]
  rw [replaced, put_directories _ place content vacant, erased]

theorem replaced_room (tree : FileTree) (path : Path) (beside place : Location) (content : Content)
    (room : tree.Room path beside place) : (tree.replaced beside place content).Room path beside place :=
  room_same tree _ path beside place room (replaced_directories tree path beside place content room)

end FileTree

namespace Settings

theorem replace_room (path : Path) (text : Text) (tree : FileTree) (beside place : Location)
    (room : tree.Room path beside place) :
    replaceIn path text tree = (.ok (), tree.replaced beside place (.text text)) := by
  have written : tree.write (Path.withExtension "tmp".toList path) (.text text) =
      (true, tree.put beside (.file (.text text))) := by
    rw [FileTree.write, room.temporary]
    simp [room.besideVacant]
  have same := FileTree.put_directories tree beside (.text text) room.besideVacant
  have there := FileTree.node_put_same beside (.file (.text text)) tree
    (FileTree.below_root tree beside room.besideVacant)
  have renamed : (tree.put beside (.file (.text text))).rename (Path.withExtension "tmp".toList path) path =
      (true, tree.replaced beside place (.text text)) := by
    rw [FileTree.rename, FileTree.locate_same _ tree same, FileTree.locate_same _ tree same, room.temporary,
      room.target]
    simp [there, same, room.placeVacant, FileTree.erase_put, FileTree.replaced]
  rw [replace_in_eq path text tree _ rfl, written]
  simp only [renamed]

theorem replace_done (path : Path) (text : Text) (tree after : FileTree)
    (done : replaceIn path text tree = (.ok (), after)) : ∃ beside place, tree.Room path beside place := by
  rw [replace_in_eq path text tree _ rfl] at done
  cases written : tree.write (Path.withExtension "tmp".toList path) (.text text) with
  | mk success grown =>
      cases success with
      | false =>
          rw [written] at done
          cases done
      | true =>
          obtain ⟨beside, temporary, vacant, rfl⟩ := FileTree.write_done tree grown _ _ written
          have same := FileTree.put_directories tree beside (.text text) vacant
          rw [written] at done
          cases renamed : (tree.put beside (.file (.text text))).rename (Path.withExtension "tmp".toList path) path with
          | mk success final =>
              cases success with
              | false =>
                  simp only [renamed] at done
                  cases done
              | true =>
                  obtain ⟨_, place, _, _, target, _, clear, _⟩ := FileTree.rename_done _ final _ _ renamed
                  rw [FileTree.locate_same _ tree same] at target
                  rw [same] at clear
                  exact ⟨beside, place, temporary, target, vacant, clear⟩

def prepared (path : Path) (tree : FileTree) : Bool × FileTree :=
  (Path.directory? path).elim (true, tree) fun directory => tree.makeDirectories directory

theorem save_done_iff (path : Path) (settings : Settings) (tree after : FileTree) :
    saveIn path settings tree = (.ok (), after) ↔
      ∃ grown, prepared path tree = (true, grown) ∧ replaceIn path settings.toJson.pretty grown = (.ok (), after) := by
  rw [save_in_eq, prepared]
  cases Path.directory? path with
  | none => simp
  | some directory =>
      simp only [Option.elim_some]
      rcases tree.makeDirectories directory with ⟨_ | _, grown⟩ <;> simp

theorem prepared_grown (path : Path) (tree : FileTree) (descends : ['.', '.'] ∉ split '/' path) :
    tree.Grown (prepared path tree).2 (Path.names path).dropLast := by
  rw [prepared]
  cases found : Path.directory? path with
  | none => exact tree.grown_refl _
  | some directory =>
      obtain ⟨above, still⟩ := Path.directory_leads path directory found
      rw [Option.elim_some, FileTree.makeDirectories, ← above]
      split
      · exact FileTree.make_grown tree [] _ (still descends)
      · exact tree.grown_refl _

theorem prepared_again (path : Path) (tree grown other : FileTree) (descends : ['.', '.'] ∉ split '/' path)
    (made : prepared path tree = (true, grown))
    (kept : ∀ location, grown.isDirectory location = true → other.isDirectory location = true) :
    prepared path other = (true, other) := by
  rw [prepared] at made ⊢
  cases found : Path.directory? path with
  | none => rfl
  | some directory =>
      obtain ⟨_, still⟩ := Path.directory_leads path directory found
      rw [found, Option.elim_some, FileTree.makeDirectories] at made
      rw [Option.elim_some, FileTree.makeDirectories]
      by_cases valid : FileTree.isPath directory = true
      · rw [if_pos valid] at made ⊢
        exact FileTree.make_again tree grown other [] _ (still descends) made kept
      · simp [valid] at made

theorem save_done (path : Path) (settings : Settings) (tree after : FileTree) (descends : ['.', '.'] ∉ split '/' path)
    (saved : saveIn path settings tree = (.ok (), after)) :
    ∃ grown beside, prepared path tree = (true, grown) ∧ tree.Grown grown (Path.names path).dropLast ∧
      grown.Room path beside (Path.names path) ∧
      after = grown.replaced beside (Path.names path) (.text settings.toJson.pretty) := by
  obtain ⟨grown, made, done⟩ := (save_done_iff path settings tree after).mp saved
  obtain ⟨beside, place, room⟩ := replace_done path _ grown after done
  obtain rfl := FileTree.locate_names grown path place descends room.target
  have growth := prepared_grown path tree descends
  rw [made] at growth
  rw [replace_room path _ grown beside _ room] at done
  exact ⟨grown, beside, made, growth, room, (congrArg Prod.snd done).symm⟩

theorem load_there (path : Path) (settings : Settings) (tree : FileTree)
    (there : tree.lookup? path = some (.file (.text settings.toJson.pretty))) :
    loadIn path tree = (.ok settings, tree) := by
  have decoded : (Json.read? settings.toJson.pretty).bind ofJson? = some settings := by
    rw [Json.read_pretty settings.toJson rfl, Option.bind_some, read_back]
  rw [load_in_eq, FileTree.isPresent, FileTree.readText?, there]
  simp only [Option.isSome_some, if_true, Content.text?, decoded, Option.elim_some]

theorem saved_loads (path : Path) (settings : Settings) (tree after : FileTree)
    (descends : ['.', '.'] ∉ split '/' path) (saved : saveIn path settings tree = (.ok (), after)) :
    loadIn path after = (.ok settings, after) := by
  obtain ⟨grown, beside, _, _, room, rfl⟩ := save_done path settings tree after descends saved
  have settled := FileTree.replaced_room grown path beside _ (.text settings.toJson.pretty) room
  apply load_there
  rw [FileTree.lookup?, settled.target, Option.bind_some]
  exact FileTree.replaced_place beside _ _ grown (FileTree.below_root grown _ room.placeVacant)

theorem init_saved (path : Path) (tree after : FileTree) (report : Report)
    (ran : Command.runIn (.init path) tree = (report, after)) (done : report.status = 0) :
    saveIn path {} tree = (.ok (), after) := by
  have started : (save path {} : StateM FileTree (Except Fault Unit)).run tree = pure (saveIn path {} tree) := rfl
  simp only [Command.runIn, Command.run, Command.runInit, StateT.run_bind, started, pure_bind] at ran
  rcases outcome : saveIn path {} tree with ⟨fault | _, final⟩
  · rw [outcome] at ran
    cases ran
    cases done
  · rw [outcome] at ran
    cases ran
    rfl

/-- A successful save is found again: loading gives the very settings, the file holds their text, no temporary file
stays beside it, and all else is as before except for new directories the path lies in. Another save then succeeds,
and leaves the tree it would leave alone. A path that was initialised holds what is loaded where nothing is. -/
theorem saves_durably (tree : FileTree) (path : Path) (descends : ['.', '.'] ∉ split '/' path) :
    (∀ settings after, saveIn path settings tree = (.ok (), after) →
      let place := Path.names path
      let temporary := Path.withExtension "tmp".toList path
      loadIn path after = (.ok settings, after) ∧
      after.locate? path = some place ∧
      after.node? place = some (.file (.text settings.toJson.pretty)) ∧
      (∃ beside, after.locate? temporary = some beside ∧ (beside = place ∨ after.isPresent temporary = false) ∧
        ∀ location, location ≠ place → location ≠ beside →
          after.node? location = tree.node? location ∨
            tree.node? location = none ∧ after.node? location = some .directory ∧ location <+: place.dropLast) ∧
      ∀ later, (saveIn path later after).1 = .ok () ∧ saveIn path later after = saveIn path later tree) ∧
    (∀ report after, Command.runIn (.init path) tree = (report, after) → report.status = 0 →
      ∀ other missing, other.isPresent missing = false → (loadIn path after).1 = (loadIn missing other).1) := by
  refine ⟨?_, ?_⟩
  · intro settings after saved place temporary
    refine ⟨saved_loads path settings tree after descends saved, ?_⟩
    obtain ⟨grown, beside, made, growth, room, rfl⟩ := save_done path settings tree after descends saved
    have same := FileTree.replaced_directories grown path beside place (.text settings.toJson.pretty) room
    have settled := FileTree.replaced_room grown path beside place (.text settings.toJson.pretty) room
    have placeBelow := FileTree.below_root grown place room.placeVacant
    have besideBelow := FileTree.below_root grown beside room.besideVacant
    have put := FileTree.replaced_place beside place (.text settings.toJson.pretty) grown placeBelow
    refine ⟨settled.target, put, ⟨beside, settled.temporary, ?_, ?_⟩, ?_⟩
    · by_cases apart : beside = place
      · exact .inl apart
      · have gone := FileTree.replaced_beside beside place (.text settings.toJson.pretty) grown besideBelow apart
        exact .inr (by rw [FileTree.isPresent, FileTree.lookup?, settled.temporary, Option.bind_some, gone]; rfl)
    · intro location elsewhere apart
      rw [FileTree.replaced_other beside place location _ grown elsewhere apart]
      exact FileTree.grown_cases tree grown _ location growth
    · intro later
      have direct : saveIn path later tree = (.ok (), grown.replaced beside place (.text later.toJson.pretty)) :=
        (save_done_iff path later tree _).mpr ⟨grown, made, replace_room path _ grown beside place room⟩
      have again := prepared_again path tree grown _ descends made (fun location => (same location ▸ ·))
      have second := (save_done_iff path later _ _).mpr ⟨_, again, replace_room path _ _ beside place settled⟩
      rw [FileTree.replaced_again] at second
      exact ⟨congrArg Prod.fst second, second.trans direct.symm⟩
  · intro report after ran done other missing absent
    have saved := init_saved path tree after report ran done
    rw [saved_loads path {} tree after descends saved, load_absent missing other absent]

theorem saves_durably_over_leftovers :
    let tree : FileTree := ⟨[(["conf".toList], .directory), (["conf".toList, "a.json".toList], .file (.octets [255])),
      (["conf".toList, "a.tmp".toList], .file (.text "left".toList))]⟩
    let path : Path := "conf//a.json".toList
    let deep : Path := "./conf/new/a.b.json".toList
    let settings : Settings := { version := 7, policy := .error }
    let after := (saveIn path settings tree).2
    let started := Command.runIn (.init deep) after
    ['.', '.'] ∉ split '/' path ∧ ['.', '.'] ∉ split '/' deep ∧ saveIn path settings tree = (.ok (), after) ∧
      loadIn path after = (.ok settings, after) ∧
      (saveIn path {} after).1 = .ok () ∧ saveIn path {} after = saveIn path {} tree ∧
      started.1.status = 0 ∧ (loadIn deep started.2).1 = (loadIn "none.json".toList tree).1 := by
  intro tree path deep settings after started
  have descends : ['.', '.'] ∉ split '/' path := by decide
  have deeper : ['.', '.'] ∉ split '/' deep := by decide
  have outcome : (saveIn path settings tree).1 = .ok () := by decide +kernel
  have saved : saveIn path settings tree = (.ok (), after) := Prod.ext outcome rfl
  have status : started.1.status = 0 := by decide +kernel
  have missing : tree.isPresent "none.json".toList = false := by decide
  obtain ⟨loaded, _, _, _, again⟩ := (saves_durably tree path descends).1 settings after saved
  have initial := (saves_durably after deep deeper).2 started.1 started.2 (Prod.eta started).symm status tree _ missing
  exact ⟨descends, deeper, saved, loaded, (again {}).1, (again {}).2, status, initial⟩

end Settings

end Interpolation
