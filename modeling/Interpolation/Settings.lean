import Interpolation.Json.Record

set_option autoImplicit false

/- How a resolver treats the text around a lone reference, which its chain of accesses cannot carry. -/
namespace Interpolation

inductive Policy where
  | ignore
  | warn
  | error
deriving DecidableEq, Repr

namespace Policy

def all : List Policy := [.ignore, .warn, .error]

def word : Policy → Text
  | .ignore => "ignore".toList
  | .warn => "warn".toList
  | .error => "error".toList

def ofWord? (t : Text) : Option Policy := all.find? fun policy => policy.word == t

end Policy

structure Settings where
  version : UInt32 := 1
  policy : Policy := .warn
deriving DecidableEq, Repr

namespace Policy

def toJson (policy : Policy) : Json := .string policy.word

def ofJson? (json : Json) : Option Policy := json.variant?.bind ofWord?

end Policy

namespace Settings

def versionOfJson? : Json → Option UInt32
  | .number (.natural n) => if n < UInt32.size then some (UInt32.ofNat n) else none
  | _ => none

def fieldNames : List Text := ["version".toList, "discard_policy".toList]

def toJson (settings : Settings) : Json :=
  .object [
    ("version".toList, .number (.natural settings.version.toNat)),
    ("discard_policy".toList, settings.policy.toJson)]

def ofJson? (json : Json) : Option Settings :=
  match json.fields? fieldNames with
  | some [version, policy] => do
      let version ← version.elim (some 1) versionOfJson?
      let policy ← policy.elim (some .warn) Policy.ofJson?
      return { version, policy }
  | _ => none

end Settings

end Interpolation
