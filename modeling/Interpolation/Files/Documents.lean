import Interpolation.Failure
import Interpolation.Files.Path
import Interpolation.Json.Reader
import Interpolation.Resolver
import Interpolation.Settings

set_option autoImplicit false

namespace Interpolation

variable {m : Type → Type} [Monad m] [Store m]

namespace Settings

def fileName : Path := "hclexpr.json".toList

def load (path : Path) : m (Except Fault Settings) := do
  if ← Store.isPresent path then
    match ← Store.readText? path with
    | none => return .error (.readSettings path)
    | some text =>
        match (Json.read? text).bind ofJson? with
        | none => return .error (.parseSettings path)
        | some settings => return .ok settings
  else return .ok {}

-- Puts text in the place of a file in one step: it is first written beside it and then given its name.
def replace (path : Path) (text : Text) : m (Except Fault Unit) := do
  let temporary := Path.withExtension "tmp".toList path
  if ← Store.writeText temporary text then
    if ← Store.rename temporary path then return .ok () else return .error (.replaceSettings temporary path)
  else return .error (.writeTemporary temporary)

def save (path : Path) (settings : Settings) : m (Except Fault Unit) := do
  match Path.directory? path with
  | none => replace path settings.toJson.pretty
  | some directory =>
      if ← Store.makeDirectories directory then replace path settings.toJson.pretty
      else return .error (.makeDirectory directory)

end Settings

def Catalog.load (path : Path) : m (Except Fault Catalog) := do
  match ← Store.readText? path with
  | none => return .error (.readCatalog path)
  | some text =>
      match (Json.read? text).bind ofJson? with
      | none => return .error (.parseCatalog path)
      | some catalog => return .ok catalog

def Resolver.load (catalogPath : Path) (settingsPath : Option Path) : m (Except Fault Resolver) := do
  match ← Catalog.load catalogPath with
  | .error fault => return .error fault
  | .ok catalog =>
      match settingsPath with
      | none => return .ok ⟨catalog, {}⟩
      | some path =>
          match ← Settings.load path with
          | .error fault => return .error fault
          | .ok settings => return .ok ⟨catalog, settings⟩

end Interpolation
