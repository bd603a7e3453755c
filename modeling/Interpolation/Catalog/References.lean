import Interpolation.Atoms
import Interpolation.Comprehension
import Interpolation.Failure
import Interpolation.Marker
import Interpolation.Reference

set_option autoImplicit false

namespace Interpolation

open Text

def splat : Text := ['.', '*']

def mentions (input : Text) : List Text := addresses (collection (enclosed input))

-- Where an address stands. It is cut out of the input, so it occurs there, and it is looked for behind the references
-- before it, so that a repeated address is not found at the same place again.
def anchor (input address : Text) (previous : Nat) : Nat :=
  match offset? address (onward previous input) with
  | some distance => previous + distance
  | none => (offset? address input).getD 0

namespace Catalog

def resolve? (catalog : Catalog) (input : Text) : Nat → List Text → Option (List Reference)
  | _, [] => some []
  | previous, address :: rest => do
      let id ← catalog.find? (segments address)
      let reference := Reference.anchored (anchor input address previous) id address
      return reference :: (← catalog.resolve? input reference.stop rest)

def references (catalog : Catalog) (input : Text) : Except Failure (List Reference) :=
  if contains splat input then .error (.splat input)
  else if !isInterpolated input then .ok []
  else
    match catalog.resolve? input 0 (mentions input) with
    | some references => .ok references
    | none => .error (.unknown input catalog)

end Catalog

end Interpolation
