import Interpolation.Catalog
import Interpolation.Files.Path
import Interpolation.Json.Writer
import Interpolation.Text.Characters

set_option autoImplicit false

/- Why an input or a file is refused, and the wording of it. The message of a fault ends before the colon behind which
   the system or the parser would say what went wrong; what they say is left out. -/
namespace Interpolation

open Text

inductive Fault where
  | readSettings (path : Path)
  | parseSettings (path : Path)
  | makeDirectory (path : Path)
  | writeTemporary (path : Path)
  | replaceSettings (temporary path : Path)
  | readCatalog (path : Path)
  | parseCatalog (path : Path)
deriving DecidableEq, Repr

namespace Fault

def named (path : Path) : Text := '\'' :: path ++ ['\'']

def message : Fault → Text
  | .readSettings path => "failed to read config file ".toList ++ named path
  | .parseSettings path => "failed to parse config file ".toList ++ named path
  | .makeDirectory path => "failed to create config directory ".toList ++ named path
  | .writeTemporary path => "failed to write temporary config file ".toList ++ named path
  | .replaceSettings temporary path =>
      "failed to rename temporary config file ".toList ++ named temporary ++ " to ".toList ++ named path
  | .readCatalog path => "failed to read catalog file ".toList ++ named path
  | .parseCatalog path => "failed to parse catalog file ".toList ++ named path

end Fault

inductive Failure where
  | splat (input : Text)
  | unknown (input : Text) (catalog : Catalog)
  | discarded (input text : Text)
  | storage (fault : Fault)
deriving DecidableEq, Repr

namespace Failure

def expressionNote (input : Text) : Text := " (expression: ".toList ++ input ++ [')']

def message : Failure → Text
  | .splat input =>
      "unsupported Terraform feature: splat operations (resource.name.*.property) are not yet supported".toList ++
        expressionNote input
  | .unknown input catalog =>
      "unknown reference: ".toList ++ input ++ " was not found in ".toList ++ catalog.toJson.compact
  | .discarded input text =>
      "text discarded around single reference: ".toList ++ quoted text ++ expressionNote input
  | .storage fault => "config error: ".toList ++ fault.message

end Failure

end Interpolation
