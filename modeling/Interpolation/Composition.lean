import Interpolation.Failure
import Interpolation.Marker
import Interpolation.Reference
import Interpolation.Settings

set_option autoImplicit false

/- The expression an input becomes, given its references: the literal itself, one chain of accesses, or a template.
   References need not fit the input; a span that is no part of it stands for no text. -/
namespace Interpolation

open Text

-- References with the same start keep their order.
def insertByStart (reference : Reference) : List Reference → List Reference
  | [] => [reference]
  | head :: rest =>
      if reference.start ≤ head.start then reference :: head :: rest else head :: insertByStart reference rest

def sortByStart : List Reference → List Reference
  | [] => []
  | reference :: rest => insertByStart reference (sortByStart rest)

def gaps (input : Text) : Nat → List Reference → List Text
  | reached, [] => [onward reached input]
  | reached, reference :: rest =>
      between reached reference.start input :: gaps input (max reached reference.stop) rest

def laterQuasis (marker : Marker) : List Text → List Quasi
  | [] => []
  | [gap] => [⟨marker.withoutClosing gap, true⟩]
  | gap :: next :: rest => ⟨marker.withoutBoth gap, false⟩ :: laterQuasis marker (next :: rest)

def quasis (marker : Marker) : List Text → List Quasi
  | [] => []
  | [gap] => [⟨marker.withoutClosing gap, true⟩]
  | gap :: next :: rest => ⟨marker.withoutOpening gap, false⟩ :: laterQuasis marker (next :: rest)

def template (input : Text) (references : List Reference) : Expression :=
  .template (quasis (Marker.ofText input) (gaps input 0 references)) (references.map chain)

theorem gaps_length (input : Text) (reached : Nat) (references : List Reference) :
    (gaps input reached references).length = references.length + 1 := by
  induction references generalizing reached with
  | nil => rfl
  | cons reference rest ih => simp [gaps, ih]

theorem later_quasis_length (marker : Marker) (gaps : List Text) :
    (laterQuasis marker gaps).length = gaps.length := by
  induction gaps with
  | nil => rfl
  | cons gap rest ih =>
      cases rest with
      | nil => rfl
      | cons next rest => simpa [laterQuasis] using ih

theorem quasis_length (marker : Marker) (gaps : List Text) : (quasis marker gaps).length = gaps.length := by
  fun_cases quasis marker gaps with
  | case1 => rfl
  | case2 gap => rfl
  | case3 gap next rest => simp [later_quasis_length]

def remainder (input : Text) (reference : Reference) : Text :=
  let marker := Marker.ofText input
  marker.withoutOpening (upTo reference.start input) ++ marker.withoutClosing (onward reference.stop input)

inductive Severity where
  | warning
  | debug
deriving DecidableEq, Repr

structure Dropping where
  severity : Severity
  input : Text
  text : Text
deriving DecidableEq, Repr

def Dropping.title : Text := "dropping text around single reference".toList

structure Noted (α : Type) where
  result : Except Failure α
  dropped : List Dropping

def loneWith (policy : Policy) (input : Text) (reference : Reference) : Text → Noted Expression
  | [] => ⟨.ok (chain reference), []⟩
  | text =>
      match policy with
      | .error => ⟨.error (.discarded input text), []⟩
      | .warn => ⟨.ok (chain reference), [⟨.warning, input, text⟩]⟩
      | .ignore => ⟨.ok (chain reference), [⟨.debug, input, text⟩]⟩

def lone (policy : Policy) (input : Text) (reference : Reference) : Noted Expression :=
  loneWith policy input reference (remainder input reference)

def compose (policy : Policy) (input : Text) (references : List Reference) : Noted Expression :=
  match sortByStart references with
  | [] => ⟨.ok (.literal input), []⟩
  | [reference] => lone policy input reference
  | sorted => ⟨.ok (template input sorted), []⟩

end Interpolation
