import Interpolation.Command.Run
import Interpolation.Files.Tree

set_option autoImplicit false

namespace Interpolation

open Text

def Catalog.loadIn (path : Path) (tree : FileTree) : Except Fault Catalog × FileTree :=
  (load path : StateM FileTree (Except Fault Catalog)).run tree

def Settings.loadIn (path : Path) (tree : FileTree) : Except Fault Settings × FileTree :=
  (load path : StateM FileTree (Except Fault Settings)).run tree

def Command.runIn (command : Command) (tree : FileTree) : Report × FileTree :=
  (run command : StateM FileTree Report).run tree

theorem run_present (path : Path) (tree : FileTree) :
    (Store.isPresent path : StateM FileTree Bool).run tree = pure (tree.isPresent path, tree) := rfl

theorem run_read (path : Path) (tree : FileTree) :
    (Store.readText? path : StateM FileTree (Option Text)).run tree = pure (tree.readText? path, tree) := rfl

theorem Catalog.load_in_eq (path : Path) (tree : FileTree) :
    loadIn path tree =
      (match tree.readText? path with
        | none => .error (.readCatalog path)
        | some text => ((Json.read? text).bind ofJson?).elim (.error (.parseCatalog path)) .ok, tree) := by
  simp only [loadIn, load, StateT.run_bind, run_read, pure_bind]
  cases tree.readText? path with
  | none => rfl
  | some text => cases found : (Json.read? text).bind ofJson? <;> simp only [found] <;> rfl

theorem Settings.load_in_eq (path : Path) (tree : FileTree) :
    loadIn path tree =
      (if tree.isPresent path then
        match tree.readText? path with
        | none => .error (.readSettings path)
        | some text => ((Json.read? text).bind ofJson?).elim (.error (.parseSettings path)) .ok
      else .ok {}, tree) := by
  simp only [loadIn, load, StateT.run_bind, run_present, pure_bind]
  cases tree.isPresent path with
  | false => rfl
  | true =>
      simp only [if_true, StateT.run_bind, run_read, pure_bind]
      cases tree.readText? path with
      | none => rfl
      | some text => cases found : (Json.read? text).bind ofJson? <;> simp only [found] <;> rfl

theorem Settings.load_absent (path : Path) (tree : FileTree) (absent : tree.isPresent path = false) :
    loadIn path tree = (.ok {}, tree) := by
  rw [load_in_eq, absent]
  rfl

end Interpolation
