import Interpolation.Json.Record
import Interpolation.Reference

set_option autoImplicit false

namespace Interpolation

namespace Target

def fieldNames : List Text := ["id".toList, "full".toList]

def toJson (target : Target) : Json :=
  .object [("id".toList, .string target.id), ("full".toList, .string target.full)]

def ofJson? (json : Json) : Option Target :=
  match json.fields? fieldNames with
  | some [some (.string id), some (.string full)] => some ⟨id, full⟩
  | _ => none

end Target

namespace Reference

def positionOfJson? : Json → Option Nat
  | .number (.natural n) => if n < UInt64.size then some n else none
  | _ => none

def fieldNames : List Text := ["start".toList, "end".toList, "referencee".toList]

def toJson (reference : Reference) : Json :=
  .object [
    ("start".toList, .number (.natural reference.start)),
    ("end".toList, .number (.natural reference.stop)),
    ("referencee".toList, reference.target.toJson)]

def ofJson? (json : Json) : Option Reference :=
  match json.fields? fieldNames with
  | some [some start, some stop, some target] => do
      return ⟨← positionOfJson? start, ← positionOfJson? stop, ← Target.ofJson? target⟩
  | _ => none

end Reference

end Interpolation
