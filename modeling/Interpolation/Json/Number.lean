import Interpolation.Text.Basic

set_option autoImplicit false

namespace Interpolation

inductive Number where
  | natural (value : Nat)
  | decimal (negative : Bool) (mantissa : Nat) (exponent : Int)
deriving DecidableEq, Repr

namespace Number

-- The value of the leading digits that fit into 64 bits, behind a value they continue, and how many digits are left
-- out.
def leading : Nat → List Char → Nat × Nat
  | value, [] => (value, 0)
  | value, digit :: rest =>
      let longer := Nat.ofDigitChars 10 [digit] value
      if longer < UInt64.size then leading longer rest else (value, rest.length + 1)

def rounded (n : Nat) : Nat :=
  let unit := Nat.pow 2 (n.log2 - 52)
  let quotient := n / unit
  let twice := 2 * (n % unit)
  if twice > unit || twice == unit && quotient % 2 == 1 then (quotient + 1) * unit else quotient * unit

def bound : Nat := Nat.pow 2 1024 - Nat.pow 2 970

-- Whether the number is within the range of doubles, when it is made as the product of its leading digits and a power
-- of ten, each of them a double.
def isFinite (number : Number) : Bool :=
  let (mantissa, exponent) :=
    match number with
    | .natural value => (value, 0)
    | .decimal _ mantissa exponent => (mantissa, exponent)
  let (value, left) := leading 0 (Nat.toDigits 10 mantissa)
  let power := exponent + left
  value = 0 || power ≤ 0 || power ≤ 308 && rounded value * rounded (Nat.pow 10 power.toNat) < bound

end Number

end Interpolation
