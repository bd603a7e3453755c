import Interpolation.Catalog.References
import Interpolation.Composition

set_option autoImplicit false

namespace Interpolation

structure Resolver where
  catalog : Catalog
  settings : Settings
deriving DecidableEq, Repr

namespace Resolver

def withPolicy (resolver : Resolver) (policy : Policy) : Resolver :=
  { resolver with settings := { resolver.settings with policy } }

def references (resolver : Resolver) (input : Text) : Except Failure (List Reference) :=
  resolver.catalog.references input

def convert (resolver : Resolver) (input : Text) : Noted Expression :=
  match resolver.references input with
  | .error failure => ⟨.error failure, []⟩
  | .ok references => compose resolver.settings.policy input references

def convertAll (resolver : Resolver) : List Text → Noted (List Expression)
  | [] => ⟨.ok [], []⟩
  | input :: rest =>
      match resolver.convert input with
      | ⟨.error failure, dropped⟩ => ⟨.error failure, dropped⟩
      | ⟨.ok expression, dropped⟩ =>
          let later := resolver.convertAll rest
          ⟨later.result.map (expression :: ·), dropped ++ later.dropped⟩

end Resolver

end Interpolation
