import Interpolation.Json.Basic

set_option autoImplicit false

namespace Interpolation.Json

def field? (members : List (Text × Json)) (name : Text) : Option (Option Json) :=
  match members.filter fun entry => entry.1 == name with
  | [] => some none
  | [(_, value)] => some (some value)
  | _ :: _ :: _ => none

-- The fields of a record, in the order of their names. A record is an object, whose other members do not matter, or an
-- array of the first so many fields.
def fields? (names : List Text) : Json → Option (List (Option Json))
  | .object members => names.mapM (field? members)
  | .array items =>
      if items.length ≤ names.length then
        some (items.map some ++ List.replicate (names.length - items.length) none)
      else none
  | .null | .bool _ | .number _ | .string _ | .illFormed => none

-- A choice without content is its name, or an object that maps the name to null.
def variant? : Json → Option Text
  | .string name => some name
  | .object [(name, .null)] => some name
  | _ => none

end Interpolation.Json
