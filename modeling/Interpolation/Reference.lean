import Interpolation.Expression
import Interpolation.Identifier

set_option autoImplicit false

namespace Interpolation

open Text

structure Target where
  id : Text
  full : Text
deriving DecidableEq, Repr

structure Reference where
  start : Nat
  stop : Nat
  target : Target
deriving DecidableEq, Repr

namespace Reference

def anchored (start : Nat) (id full : Text) : Reference := ⟨start, start + bytes full, ⟨id, full⟩⟩

def segments (reference : Reference) : List Text := Text.segments reference.target.full

end Reference

def properties (segments : List Text) : List Text :=
  match segments.drop 2 with
  | [] => []
  | first :: rest =>
      let property := if segments.head? = some Kind.moduleCall.word then first ++ "Output".toList else first
      camelCase property :: rest.map camelCase

def chain (reference : Reference) : Expression :=
  Expression.access (.identifier (entityName reference.target.full)) (properties reference.segments)

end Interpolation
