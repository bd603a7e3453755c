import Interpolation.Text.Basic

set_option autoImplicit false

namespace Interpolation

open Text

def delimiters : List Char :=
  ['(', ',', ')', ' ', '!', '-', '*', '/', '%', '>', '<', '=', '?', '{', '}', '$']

def isDelimiter (c : Char) : Bool := delimiters.contains c

def pieces : Text → List Text
  | [] => [[]]
  | '&' :: '&' :: rest => [] :: pieces rest
  | '|' :: '|' :: rest => [] :: pieces rest
  | c :: rest => if isDelimiter c then [] :: pieces rest else joinHead c (pieces rest)

def atoms (t : Text) : List Text := (pieces t).filter fun piece => !piece.isEmpty

-- Whether an atom is to name an entity: it has a dot, is neither a property of what precedes it nor a spread, and does
-- not belong to the loop variables count and each.
def isAddress (atom : Text) : Bool :=
  contains ['.'] atom && !startsWith ['.'] atom && !endsWith "...".toList atom &&
    !startsWith "count.".toList atom && !startsWith "each.".toList atom

def addresses (t : Text) : List Text := (atoms t).filter isAddress

end Interpolation
