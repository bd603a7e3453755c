import Interpolation.Files.Documents
import Interpolation.Proofs.Trees

set_option autoImplicit false

namespace Interpolation

open Text

namespace Settings

def saveIn (path : Path) (settings : Settings) (tree : FileTree) : Except Fault Unit × FileTree :=
  (save path settings : StateM FileTree (Except Fault Unit)).run tree

def replaceIn (path : Path) (text : Text) (tree : FileTree) : Except Fault Unit × FileTree :=
  (replace path text : StateM FileTree (Except Fault Unit)).run tree

theorem replace_in_eq (path : Path) (text : Text) (tree : FileTree) (temporary : Path)
    (beside : Path.withExtension "tmp".toList path = temporary) :
    replaceIn path text tree =
      match tree.write temporary (.text text) with
      | (false, after) => (.error (.writeTemporary temporary), after)
      | (true, written) =>
          match written.rename temporary path with
          | (false, after) => (.error (.replaceSettings temporary path), after)
          | (true, after) => (.ok (), after) := by
  subst beside
  simp only [replaceIn, replace, Store.writeText, Store.rename, StateT.run_bind, StateT.run_modifyGet]
  rcases tree.write _ _ with ⟨_ | _, written⟩
  · rfl
  · simp only [pure_bind, if_true, StateT.run_bind, StateT.run_modifyGet]
    rcases written.rename _ _ with ⟨_ | _, renamed⟩ <;> rfl

theorem save_in_eq (path : Path) (settings : Settings) (tree : FileTree) :
    saveIn path settings tree =
      match Path.directory? path with
      | none => replaceIn path settings.toJson.pretty tree
      | some directory =>
          match tree.makeDirectories directory with
          | (false, after) => (.error (.makeDirectory directory), after)
          | (true, grown) => replaceIn path settings.toJson.pretty grown := by
  rw [saveIn, save]
  cases Path.directory? path with
  | none => rfl
  | some directory =>
      simp only [Store.makeDirectories, StateT.run_bind, StateT.run_modifyGet]
      rcases tree.makeDirectories directory with ⟨_ | _, grown⟩ <;> rfl

def temporaryName (name : Text) : Text := Path.exchanged "tmp".toList name

theorem temporary_path (directories : List Text) (name : Text)
    (normal : ∀ piece ∈ directories ++ [name], Path.Normal piece) :
    Path.withExtension "tmp".toList (Path.ofNames (directories ++ [name])) =
      Path.ofNames (directories ++ [temporaryName name]) :=
  Path.with_extension_names "tmp".toList directories name normal

-- The four ends of saving under a name in directories: some directory cannot be made, the temporary file cannot be
-- written, it cannot be renamed, or all succeeds.
inductive Ends (tree : FileTree) (directories : List Text) (name text : Text) :
    Except Fault Unit → FileTree → Prop where
  | barred (after : FileTree) (grown : tree.Grown after directories) :
      Ends tree directories name text (.error (.makeDirectory (Path.ofNames directories))) after
  | unwritten (after : FileTree) (grown : tree.Grown after directories) :
      Ends tree directories name text
        (.error (.writeTemporary (Path.ofNames (directories ++ [temporaryName name])))) after
  | stranded (grown : FileTree) (growth : tree.Grown grown directories)
      (room : grown.Takes directories (temporaryName name)) (refused : ¬ grown.Takes directories name) :
      Ends tree directories name text
        (.error (.replaceSettings (Path.ofNames (directories ++ [temporaryName name]))
          (Path.ofNames (directories ++ [name]))))
        (grown.put (directories ++ [temporaryName name]) (.file (.text text)))
  | done (grown : FileTree) (growth : tree.Grown grown directories) (clear : grown.Open directories)
      (room : grown.Takes directories (temporaryName name)) (takes : grown.Takes directories name) :
      Ends tree directories name text (.ok ())
        (((grown.put (directories ++ [temporaryName name]) (.file (.text text))).erase
          (directories ++ [temporaryName name])).put (directories ++ [name]) (.file (.text text)))

theorem replace_ends (tree grown : FileTree) (directories : List Text) (name text : Text)
    (normal : ∀ piece ∈ directories ++ [name], Path.Normal piece) (growth : tree.Grown grown directories)
    (clear : grown.Open directories) :
    Ends tree directories name text (replaceIn (Path.ofNames (directories ++ [name])) text grown).1
      (replaceIn (Path.ofNames (directories ++ [name])) text grown).2 := by
  have above : ∀ piece ∈ directories, Path.Normal piece := fun piece member => normal piece (by simp [member])
  rw [replace_in_eq _ text grown _ (temporary_path directories name normal)]
  rcases Path.exchanged_normal "tmp".toList name (normal name (by simp)) (by decide) with dots | plain
  · have refused := FileTree.write_above grown directories (.text text) clear above
    rw [← dots] at refused
    rw [temporaryName, refused]
    exact .unwritten grown growth
  · have beside : ∀ piece ∈ directories ++ [temporaryName name], Path.Normal piece := by
      intro piece member
      rcases List.mem_append.mp member with higher | here
      · exact above piece higher
      · rwa [List.mem_singleton.mp here]
    by_cases room : grown.Takes directories (temporaryName name)
    · rw [FileTree.write_takes grown directories _ _ clear beside room]
      have cleared := FileTree.open_put grown directories (temporaryName name) (.file (.text text)) clear
      have seen (other : Text) :=
        FileTree.takes_put grown directories (temporaryName name) other (.text text) room.vacant
      have there := FileTree.node_put_same (directories ++ [temporaryName name]) (.file (.text text)) grown (by simp)
      by_cases takes : grown.Takes directories name
      · have renamed := FileTree.rename_takes _ directories _ name _ cleared beside ((seen _).mpr room) there normal
          ((seen name).mpr takes)
        simp only [renamed]
        exact .done grown growth clear room takes
      · have refused := FileTree.rename_refused _ directories name (Path.ofNames (directories ++ [temporaryName name]))
          cleared normal (mt (seen name).mp takes)
        simp only [refused]
        exact .stranded grown growth room takes
    · rw [FileTree.write_refused grown directories _ _ clear beside room]
      exact .unwritten grown growth

theorem save_ends (tree : FileTree) (directories : List Text) (name : Text) (settings : Settings)
    (normal : ∀ piece ∈ directories ++ [name], Path.Normal piece) :
    Ends tree directories name settings.toJson.pretty (saveIn (Path.ofNames (directories ++ [name])) settings tree).1
      (saveIn (Path.ofNames (directories ++ [name])) settings tree).2 := by
  rw [save_in_eq, Path.directory_names directories name normal]
  have root : tree.Open [] := by
    refine ⟨?_, by simp⟩
    intro above higher
    rw [List.prefix_nil.mp higher]
    exact tree.root_directory
  by_cases shallow : directories = []
  · subst shallow
    exact replace_ends tree tree [] name _ normal (tree.grown_refl []) root
  · rw [if_neg shallow]
    have above : ∀ piece ∈ directories, Path.Normal piece := fun piece member => normal piece (by simp [member])
    by_cases valid : FileTree.isPath (Path.ofNames directories) = true
    · have pieces : split '/' (Path.ofNames directories) = directories :=
        split_join '/' directories shallow (Path.names_whole directories above)
      have descends : ['.', '.'] ∉ directories := fun member => (above _ member).above rfl
      have grown := FileTree.make_grown tree [] directories descends
      have opened := FileTree.make_open tree [] directories above root
      rw [Path.normal_leads directories above] at grown
      rw [List.nil_append] at grown opened
      simp only [FileTree.makeDirectories, if_pos valid, pieces]
      cases made : tree.makeFrom [] directories with
      | mk done after =>
          rw [made] at grown opened
          cases done with
          | false => exact .barred after grown
          | true => exact replace_ends tree after directories name _ normal grown (opened rfl)
    · simp only [FileTree.makeDirectories, if_neg valid]
      exact .barred tree (tree.grown_refl directories)

theorem beyond_directories (directories : List Text) (name : Text) : ¬ directories ++ [name] <+: directories := by
  intro shorter
  have size := shorter.length_le
  simp only [List.length_append, List.length_singleton] at size
  omega

theorem takes_grown (tree grown : FileTree) (directories : List Text) (name : Text)
    (growth : tree.Grown grown directories) (takes : tree.Takes directories name) : grown.Takes directories name := by
  refine ⟨takes.path, takes.short, ?_⟩
  have beyond := beyond_directories directories name
  rw [FileTree.isDirectory, FileTree.grown_beyond tree grown directories _ growth beyond]
  exact takes.vacant

theorem put_grown_iff (tree grown : FileTree) (directories : List Text) (name : Text) (content : Content)
    (growth : tree.Grown grown directories) :
    tree.Grown (grown.put (directories ++ [name]) (.file content)) directories ↔
      tree.node? (directories ++ [name]) = some (.file content) := by
  have here := FileTree.node_put_same (directories ++ [name]) (.file content) grown (by simp)
  constructor
  · intro traceless
    rw [← FileTree.grown_beyond _ _ _ _ traceless (beyond_directories directories name)]
    exact here
  · intro there
    have same (location : Location) : (grown.put (directories ++ [name]) (.file content)).node? location =
        grown.node? location := by
      by_cases this : location = directories ++ [name]
      · rw [this, here, growth.kept _ _ there]
      · exact FileTree.node_put_other _ location _ grown this
    constructor
    · intro location node before
      rw [same]
      exact growth.kept location node before
    · intro location absent
      rw [same]
      exact growth.added location absent

/-- A failed save leaves nothing behind but directories on the way to the file, unless the renaming is what failed and
the temporary file did not hold the same text already. Renaming fails just where no file may stand under the name, and
then the temporary file stays, with the new text in place of any it had; all else is as before. -/
theorem failed_save_trace (tree after : FileTree) (directories : List Text) (name : Text) (settings : Settings)
    (fault : Fault) (normal : ∀ piece ∈ directories ++ [name], Path.Normal piece)
    (failed : saveIn (Path.ofNames (directories ++ [name])) settings tree = (.error fault, after)) :
    let path := Path.ofNames (directories ++ [name])
    let temporary := Path.ofNames (directories ++ [temporaryName name])
    let place := directories ++ [temporaryName name]
    let text := settings.toJson.pretty
    (tree.Grown after directories ↔
      fault ≠ .replaceSettings temporary path ∨ tree.node? place = some (.file (.text text))) ∧
    (fault = .replaceSettings temporary path →
      ¬ tree.Takes directories name ∧ temporaryName name ≠ name ∧
      after.node? place = some (.file (.text text)) ∧
      ∃ grown, tree.Grown grown directories ∧
        ∀ location, location ≠ place → after.node? location = grown.node? location) := by
  intro path temporary place text
  have ends := save_ends tree directories name settings normal
  rw [failed] at ends
  generalize outcome : (Except.error fault : Except Fault Unit) = result at ends
  cases ends with
  | barred _ grown =>
      cases outcome
      exact ⟨by simp [grown], by simp⟩
  | unwritten _ grown =>
      cases outcome
      exact ⟨by simp [grown], by simp⟩
  | stranded grown growth room refused =>
      cases outcome
      refine ⟨?_, ?_⟩
      · have kept := put_grown_iff tree grown directories (temporaryName name) (.text text) growth
        exact kept.trans (by simp [place, path, temporary])
      · intro _
        refine ⟨mt (takes_grown tree grown directories name growth) refused, fun same => refused (same ▸ room),
          FileTree.node_put_same place _ grown (by simp [place]), grown, growth, ?_⟩
        intro location elsewhere
        exact FileTree.node_put_other place location _ grown elsewhere
  | done grown growth clear room takes => cases outcome

theorem failed_save_trace_directory :
    let tree : FileTree := ⟨[(["conf".toList], .directory), (["conf".toList, "a.json".toList], .directory),
      (["conf".toList, "a.tmp".toList], .file (.text "old".toList))]⟩
    let settings : Settings := { policy := .error }
    let after := (saveIn "conf/a.json".toList settings tree).2
    (saveIn "conf/a.json".toList settings tree).1 =
        .error (.replaceSettings "conf/a.tmp".toList "conf/a.json".toList) ∧
      ¬ tree.Grown after ["conf".toList] ∧
      after.node? ["conf".toList, "a.tmp".toList] = some (.file (.text settings.toJson.pretty)) := by
  intro tree settings after
  have outcome : (saveIn "conf/a.json".toList settings tree).1 =
      .error (.replaceSettings "conf/a.tmp".toList "conf/a.json".toList) := rfl
  have normal : ∀ piece ∈ ["conf".toList] ++ ["a.json".toList], Path.Normal piece := by
    intro piece member
    simp only [List.singleton_append, List.mem_cons, List.not_mem_nil, or_false] at member
    rcases member with rfl | rfl <;> exact ⟨by decide, by decide, by decide, by decide⟩
  obtain ⟨trace, left⟩ := failed_save_trace tree after ["conf".toList] "a.json".toList settings _ normal
    (Prod.ext outcome rfl)
  refine ⟨outcome, ?_, (left rfl).2.2.1⟩
  rw [trace]
  decide +kernel

end Settings

end Interpolation
