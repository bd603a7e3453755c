import Interpolation.Text.Basic

set_option autoImplicit false

/- Paths as they are written. A path is split at its slashes; pieces that are empty or a single dot lead nowhere,
   except that the first piece tells an absolute path and a leading dot. -/
namespace Interpolation

open Text

abbrev Path := Text

namespace Path

def trimmed : List Text → List Text
  | [] => []
  | [first] => [first]
  | piece :: next :: earlier =>
      if piece = [] || piece = ['.'] then trimmed (next :: earlier) else piece :: next :: earlier

def reversed (path : Path) : List Text := trimmed (split '/' path).reverse

def directory? (path : Path) : Option Path :=
  match reversed path with
  | [] | [_] => none
  | _ :: earlier =>
      match trimmed earlier with
      | [[]] => some ['/']
      | rest => some (join '/' rest.reverse)

def name? (path : Path) : Option (Path × Text) :=
  match reversed path with
  | [] => none
  | name :: earlier =>
      if name = [] || name = ['.'] || name = ['.', '.'] then none
      else some (join '/' ([] :: earlier).reverse, name)

def cutExtension (name : Text) : Text × Option Text :=
  match cutLast? ['.'] name with
  | none | some ([], _) => (name, none)
  | some (stem, extension) => (stem, some extension)

def withoutExtension (path : Path) : Path :=
  match name? path with
  | none => path
  | some (_, name) => dropEnd ((cutExtension name).2.getD []).length path

-- The extension of the name is exchanged or added. A path without a name stays as it is, and so does one that has none
-- any more without its old extension.
def withExtension (extension : Text) (path : Path) : Path :=
  let bare := withoutExtension path
  match name? bare with
  | none => bare
  | some (before, name) => before ++ (cutExtension name).1 ++ '.' :: extension

end Path

class Store (m : Type → Type) where
  isPresent : Path → m Bool
  readText? : Path → m (Option Text)
  makeDirectories : Path → m Bool
  writeText : Path → Text → m Bool
  rename : Path → Path → m Bool

end Interpolation
