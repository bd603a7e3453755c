import Interpolation.Entity
import Interpolation.Json.Basic

set_option autoImplicit false

/- The identifiers of all declared entities, in the order supplied. One of fewer than two segments names nothing, and
   is kept only to be listed. -/
namespace Interpolation

structure Catalog where
  ids : List Text
deriving DecidableEq, Repr

namespace Catalog

def isMatch (segments : List Text) (id : Text) : Bool :=
  (Entity.ofId? id).any fun entity => entity.isNamedBy segments

def find? (catalog : Catalog) (segments : List Text) : Option Text := catalog.ids.find? (isMatch segments)

def toJson (catalog : Catalog) : Json := .array (catalog.ids.map .string)

def idOfJson? : Json → Option Text
  | .string id => some id
  | _ => none

def ofJson? : Json → Option Catalog
  | .array items => (items.mapM idOfJson?).map Catalog.mk
  | _ => none

end Catalog

end Interpolation
