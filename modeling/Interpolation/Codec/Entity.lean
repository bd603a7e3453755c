import Interpolation.Entity
import Interpolation.Json.Record

set_option autoImplicit false

namespace Interpolation

namespace Kind

def name : Kind → Text
  | .resource => "Resource".toList
  | .data => "DataSource".toList
  | .input => "Variable".toList
  | .localValue => "Local".toList
  | .moduleCall => "Module".toList

def ofName? (t : Text) : Option Kind := all.find? fun kind => kind.name == t

def toJson (kind : Kind) : Json := .string kind.name

def ofJson? (json : Json) : Option Kind := json.variant?.bind ofName?

end Kind

namespace Entity

def typeField : Text := "type_name".toList

def nameField : Text := "name".toList

def fieldsToJson : Entity → Json
  | .resource type name => .object [(typeField, .string type), (nameField, .string name)]
  | .data type name => .object [(typeField, .string type), (nameField, (name.map Json.string).getD .null)]
  | .input name | .localValue name | .moduleCall name => .object [(nameField, .string name)]

def toJson (entity : Entity) : Json := .object [(entity.kind.name, entity.fieldsToJson)]

def nameOfJson? (json : Json) : Option Text :=
  match json.fields? [nameField] with
  | some [some (.string name)] => some name
  | _ => none

def resourceOfJson? (json : Json) : Option Entity :=
  match json.fields? [typeField, nameField] with
  | some [some (.string type), some (.string name)] => some (.resource type name)
  | _ => none

-- The name may be null, and an object may leave it out.
def dataOfJson? (json : Json) : Option Entity :=
  match json, json.fields? [typeField, nameField] with
  | .array [_], _ => none
  | _, some [some (.string type), some (.string name)] => some (.data type (some name))
  | _, some [some (.string type), some .null] => some (.data type none)
  | _, some [some (.string type), none] => some (.data type none)
  | _, _ => none

def ofJson? : Json → Option Entity
  | .object [(name, fields)] =>
      match Kind.ofName? name with
      | some .resource => resourceOfJson? fields
      | some .data => dataOfJson? fields
      | some .input => (nameOfJson? fields).map .input
      | some .localValue => (nameOfJson? fields).map .localValue
      | some .moduleCall => (nameOfJson? fields).map .moduleCall
      | none => none
  | _ => none

end Entity

end Interpolation
