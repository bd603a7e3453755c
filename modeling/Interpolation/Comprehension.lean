import Interpolation.Text.Characters

set_option autoImplicit false

namespace Interpolation

open Text

def isWordChar (c : Char) : Bool := isAlphanumeric c || c == '_' || c == '-'

def isBound : Option Char → Bool
  | none => true
  | some c => !isWordChar c

-- Cuts at the first occurrence of the word that stands alone. The second argument is the character before the text.
-- After an occurrence inside a longer word the search goes on behind it; the count says how many of its characters are
-- still to be passed.
def cutWord? (word : Text) : Nat → Option Char → Text → Option (Text × Text)
  | _, _, [] => none
  | passing + 1, _, c :: rest => (cutWord? word passing (some c) rest).map (withFirst c)
  | 0, before, c :: rest =>
      match after? word (c :: rest) with
      | none => (cutWord? word 0 (some c) rest).map (withFirst c)
      | some tail =>
          if isBound before && isBound tail.head? then some ([], tail)
          else (cutWord? word (word.length - 1) (some c) rest).map (withFirst c)

def collection? (t : Text) : Option Text := do
  let (_, afterFor) ← cutWord? "for".toList 0 none t
  let (_, afterIn) ← cutWord? "in".toList 0 (some 'r') afterFor
  let (source, _) ← cut? [':'] afterIn
  return source

def collection (t : Text) : Text := (collection? t).getD t

end Interpolation
