import Interpolation.Entity

set_option autoImplicit false

namespace Interpolation

open Text

-- A capital begins a word after a small letter or a digit, and after another capital when a small letter follows, so
-- that the last capital of a run belongs to the next word.
def beginsWord (before : Option Char) (c : Char) (next : Option Char) : Bool :=
  c.isUpper &&
    (before.any fun b => b.isLower || b.isDigit || (b.isUpper && next.any Char.isLower))

def wordPieces : Option Char → Text → List Text
  | _, [] => [[]]
  | before, c :: rest =>
      let later := wordPieces (some c) rest
      if !c.isAlphanum then [] :: later
      else if beginsWord before c rest.head? then [] :: joinHead c later
      else joinHead c later

def words (t : Text) : List Text := (wordPieces none t).filter fun piece => !piece.isEmpty

def lowercase (word : Text) : Text := word.map Char.toLower

def capitalize : Text → Text
  | [] => []
  | c :: rest => if c.isDigit then '_' :: c :: lowercase rest else c.toUpper :: lowercase rest

def joinWords : List Text → Text
  | [] => []
  | word :: later => lowercase word ++ later.flatMap capitalize

def camelCase (t : Text) : Text := joinWords (words t)

def entityName (address : Text) : Text :=
  let parts := segments address
  let first := parts.head?.getD []
  let second := parts[1]?.getD []
  if (Kind.ofWord? first).any Kind.isNamedAlone then camelCase second
  else camelCase (first ++ '_' :: second)

end Interpolation
