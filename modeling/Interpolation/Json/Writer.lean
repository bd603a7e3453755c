import Interpolation.Json.Basic

set_option autoImplicit false

namespace Interpolation.Json

def hexDigit (n : Nat) : Char := Nat.digitChar (n % 16)

def escape (c : Char) : Text :=
  if c = '"' then ['\\', '"']
  else if c = '\\' then ['\\', '\\']
  else if c = '\x08' then ['\\', 'b']
  else if c = '\x0c' then ['\\', 'f']
  else if c = '\n' then ['\\', 'n']
  else if c = '\r' then ['\\', 'r']
  else if c = '\t' then ['\\', 't']
  else if c < ' ' then ['\\', 'u', '0', '0', hexDigit (c.toNat / 16), hexDigit c.toNat]
  else [c]

def quote (t : Text) : Text := '"' :: t.flatMap escape ++ ['"']

def writeNumber : Number → Text
  | .natural value => Nat.toDigits 10 value
  | .decimal negative mantissa exponent =>
      (if negative then ['-'] else []) ++ Nat.toDigits 10 mantissa ++
        (if exponent < 0 then ['e', '-'] else ['e']) ++ Nat.toDigits 10 exponent.natAbs

def writeScalar : Json → Text
  | .bool true => "true".toList
  | .bool false => "false".toList
  | .number value => writeNumber value
  | .string value => quote value
  | .null | .array _ | .object _ | .illFormed => "null".toList

mutual
def compact : Json → Text
  | .array items => '[' :: compactItems items ++ [']']
  | .object members => '{' :: compactMembers members ++ ['}']
  | json => writeScalar json

def compactItems : List Json → Text
  | [] => []
  | [item] => compact item
  | item :: next :: rest => compact item ++ ',' :: compactItems (next :: rest)

def compactMembers : List (Text × Json) → Text
  | [] => []
  | [(key, value)] => quote key ++ ':' :: compact value
  | (key, value) :: next :: rest => quote key ++ ':' :: compact value ++ ',' :: compactMembers (next :: rest)
end

def newLine (depth : Nat) : Text := '\n' :: List.replicate (2 * depth) ' '

mutual
def prettyAt (depth : Nat) : Json → Text
  | .array [] => ['[', ']']
  | .object [] => ['{', '}']
  | .array (item :: rest) =>
      '[' :: newLine (depth + 1) ++ prettyAt (depth + 1) item ++ prettyItems (depth + 1) rest ++
        newLine depth ++ [']']
  | .object ((key, value) :: rest) =>
      '{' :: newLine (depth + 1) ++ quote key ++ ':' :: ' ' :: prettyAt (depth + 1) value ++
        prettyMembers (depth + 1) rest ++ newLine depth ++ ['}']
  | json => writeScalar json

def prettyItems (depth : Nat) : List Json → Text
  | [] => []
  | item :: rest => ',' :: newLine depth ++ prettyAt depth item ++ prettyItems depth rest

def prettyMembers (depth : Nat) : List (Text × Json) → Text
  | [] => []
  | (key, value) :: rest =>
      ',' :: newLine depth ++ quote key ++ ':' :: ' ' :: prettyAt depth value ++ prettyMembers depth rest
end

def pretty (json : Json) : Text := prettyAt 0 json

end Interpolation.Json
