import Interpolation.Json.Number

set_option autoImplicit false

/- JSON values as written: members keep their order and their repetitions. A string with a surrogate escape that has
   no partner stands for no text; it is ill-formed, and so is an object with such a key. -/
namespace Interpolation

inductive Json where
  | null
  | bool (value : Bool)
  | number (value : Number)
  | string (value : Text)
  | array (items : List Json)
  | object (members : List (Text × Json))
  | illFormed

namespace Json

mutual
def height : Json → Nat
  | .array items => itemsHeight items + 1
  | .object members => membersHeight members + 1
  | .null | .bool _ | .number _ | .string _ | .illFormed => 0

def itemsHeight : List Json → Nat
  | [] => 0
  | item :: rest => max (height item) (itemsHeight rest)

def membersHeight : List (Text × Json) → Nat
  | [] => 0
  | (_, value) :: rest => max (height value) (membersHeight rest)
end

mutual
def isPlain : Json → Bool
  | .array items => arePlainItems items
  | .object members => arePlainMembers members
  | .number value => value.isFinite
  | .illFormed => false
  | .null | .bool _ | .string _ => true

def arePlainItems : List Json → Bool
  | [] => true
  | item :: rest => isPlain item && arePlainItems rest

def arePlainMembers : List (Text × Json) → Bool
  | [] => true
  | (_, value) :: rest => isPlain value && arePlainMembers rest
end

end Json

end Interpolation
