import Interpolation.Json.Basic

set_option autoImplicit false

namespace Interpolation.Json

def isBlank (c : Char) : Bool := c == ' ' || c == '\n' || c == '\t' || c == '\r'

def skipBlanks (t : Text) : Text := t.dropWhile isBlank

inductive Symbol where
  | char (c : Char)
  | unit (code : Nat)
deriving DecidableEq, Repr

def hexValue? (c : Char) : Option Nat :=
  if c.isDigit then some (c.toNat - '0'.toNat)
  else if 'a' ≤ c && c ≤ 'f' then some (c.toNat - 'a'.toNat + 10)
  else if 'A' ≤ c && c ≤ 'F' then some (c.toNat - 'A'.toNat + 10)
  else none

def unit? (a b c d : Char) : Option Nat := do
  return (((← hexValue? a) * 16 + (← hexValue? b)) * 16 + (← hexValue? c)) * 16 + (← hexValue? d)

def escaped? : Char → Option Char
  | '"' => some '"'
  | '\\' => some '\\'
  | '/' => some '/'
  | 'b' => some '\x08'
  | 'f' => some '\x0c'
  | 'n' => some '\n'
  | 'r' => some '\r'
  | 't' => some '\t'
  | _ => none

def withSymbol (symbol : Symbol) (read : List Symbol × Text) : List Symbol × Text := (symbol :: read.1, read.2)

def symbols? : Text → Option (List Symbol × Text)
  | [] => none
  | '"' :: rest => some ([], rest)
  | '\\' :: 'u' :: a :: b :: c :: d :: rest => do
      let code ← unit? a b c d
      return withSymbol (.unit code) (← symbols? rest)
  | '\\' :: c :: rest => do
      let plain ← escaped? c
      return withSymbol (.char plain) (← symbols? rest)
  | c :: rest => if c == '\\' || c < ' ' then none else (symbols? rest).map (withSymbol (.char c))

def isHighSurrogate (code : Nat) : Bool := 0xD800 ≤ code && code < 0xDC00

def isLowSurrogate (code : Nat) : Bool := 0xDC00 ≤ code && code < 0xE000

-- The text that symbols stand for: two surrogates in a row make one character, and one alone makes none.
def assemble? : List Symbol → Option Text
  | [] => some []
  | .char c :: rest => (assemble? rest).map (c :: ·)
  | .unit high :: .unit low :: rest =>
      if isHighSurrogate high && isLowSurrogate low then
        (assemble? rest).map (Char.ofNat (0x10000 + (high - 0xD800) * 0x400 + (low - 0xDC00)) :: ·)
      else if isHighSurrogate high || isLowSurrogate high then none
      else (assemble? (.unit low :: rest)).map (Char.ofNat high :: ·)
  | .unit code :: rest =>
      if isHighSurrogate code || isLowSurrogate code then none else (assemble? rest).map (Char.ofNat code :: ·)

def string? (t : Text) : Option (Option Text × Text) := (symbols? t).map fun read => (assemble? read.1, read.2)

def digits? (t : Text) : Option (Text × Text) :=
  let run := t.takeWhile Char.isDigit
  if run.isEmpty then none else some (run, t.dropWhile Char.isDigit)

def whole? : Text → Option (Text × Text)
  | '0' :: rest => some (['0'], rest)
  | t => digits? t

def fraction? : Text → Option (Text × Text)
  | '.' :: rest => digits? rest
  | t => some ([], t)

def power? : Text → Option (Option Int × Text)
  | c :: rest =>
      if c == 'e' || c == 'E' then
        match rest with
        | '+' :: more => (digits? more).map fun run => (some (Nat.ofDigitChars 10 run.1 0 : Int), run.2)
        | '-' :: more => (digits? more).map fun run => (some (-(Nat.ofDigitChars 10 run.1 0 : Int)), run.2)
        | more => (digits? more).map fun run => (some (Nat.ofDigitChars 10 run.1 0 : Int), run.2)
      else some (none, c :: rest)
  | [] => some (none, [])

def unsigned? (negative : Bool) (t : Text) : Option (Number × Text) := do
  let (whole, afterWhole) ← whole? t
  let (fraction, afterFraction) ← fraction? afterWhole
  let (power, rest) ← power? afterFraction
  let mantissa := Nat.ofDigitChars 10 (whole ++ fraction) 0
  if !negative && fraction.isEmpty && power.isNone then return (.natural mantissa, rest)
  else return (.decimal negative mantissa (power.getD 0 - fraction.length), rest)

def number? : Text → Option (Number × Text)
  | '-' :: rest => unsigned? true rest
  | t => unsigned? false t

def objectOf (members : List (Option Text × Json)) : Json :=
  match members.mapM fun entry => entry.1.map (·, entry.2) with
  | some members => .object members
  | none => .illFormed

-- The first argument bounds the steps; each step that reads nothing is followed by one that reads a character.
mutual
def value? : Nat → Text → Option (Json × Text)
  | 0, _ => none
  | steps + 1, t =>
      match skipBlanks t with
      | 'n' :: 'u' :: 'l' :: 'l' :: rest => some (.null, rest)
      | 't' :: 'r' :: 'u' :: 'e' :: rest => some (.bool true, rest)
      | 'f' :: 'a' :: 'l' :: 's' :: 'e' :: rest => some (.bool false, rest)
      | '"' :: rest => (string? rest).map fun read => ((read.1.map Json.string).getD .illFormed, read.2)
      | '[' :: rest =>
          match skipBlanks rest with
          | ']' :: rest => some (.array [], rest)
          | rest => (items? steps rest).map fun read => (.array read.1, read.2)
      | '{' :: rest =>
          match skipBlanks rest with
          | '}' :: rest => some (.object [], rest)
          | rest => (members? steps rest).map fun read => (objectOf read.1, read.2)
      | rest => (number? rest).map fun read => (.number read.1, read.2)

def items? : Nat → Text → Option (List Json × Text)
  | 0, _ => none
  | steps + 1, t =>
      match value? steps t with
      | none => none
      | some (item, rest) =>
          match skipBlanks rest with
          | ']' :: rest => some ([item], rest)
          | ',' :: rest => (items? steps rest).map fun read => (item :: read.1, read.2)
          | _ => none

def members? : Nat → Text → Option (List (Option Text × Json) × Text)
  | 0, _ => none
  | steps + 1, t =>
      match member? steps t with
      | none => none
      | some (entry, rest) =>
          match skipBlanks rest with
          | '}' :: rest => some ([entry], rest)
          | ',' :: rest => (members? steps rest).map fun read => (entry :: read.1, read.2)
          | _ => none

def member? : Nat → Text → Option ((Option Text × Json) × Text)
  | 0, _ => none
  | steps + 1, t =>
      match skipBlanks t with
      | '"' :: rest =>
          match string? rest with
          | none => none
          | some (key, rest) =>
              match skipBlanks rest with
              | ':' :: rest => (value? steps rest).map fun read => ((key, read.1), read.2)
              | _ => none
      | _ => none
end

def read? (t : Text) : Option Json :=
  match value? (3 * t.length + 3) t with
  | some (json, rest) => if (skipBlanks rest).isEmpty then some json else none
  | none => none

end Interpolation.Json
