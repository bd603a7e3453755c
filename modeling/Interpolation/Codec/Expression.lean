import Interpolation.Expression
import Interpolation.Json.Record

set_option autoImplicit false

namespace Interpolation

namespace Quasi

def toJson (quasi : Quasi) : Json := .object [("raw".toList, .string quasi.raw), ("tail".toList, .bool quasi.tail)]

def ofJson? (json : Json) : Option Quasi :=
  match json.fields? ["raw".toList, "tail".toList] with
  | some [some (.string raw), some (.bool tail)] => some ⟨raw, tail⟩
  | _ => none

end Quasi

namespace Expression

namespace Form

def name : Form → Text
  | .literal => "StringLiteral".toList
  | .identifier => "Identifier".toList
  | .member => "Member".toList
  | .template => "Template".toList

def ofName? (t : Text) : Option Form := all.find? fun form => form.name == t

def ofWord? (t : Text) : Option Form := all.find? fun form => form.word == t

def toJson (form : Form) : Json := .string form.name

def ofJson? (json : Json) : Option Form := json.variant?.bind ofName?

def fieldNames : Form → List Text
  | .literal => ["value".toList]
  | .identifier => ["name".toList]
  | .member => ["object".toList, "property".toList]
  | .template => ["quasis".toList, "expressions".toList]

end Form

def tagField : Text := "type".toList

mutual
def toJson : Expression → Json
  | .literal value => .object [(tagField, .string Form.literal.word), ("value".toList, .string value)]
  | .identifier name => .object [(tagField, .string Form.identifier.word), ("name".toList, .string name)]
  | .member object property =>
      .object [
        (tagField, .string Form.member.word),
        ("object".toList, toJson object),
        ("property".toList, .string property)]
  | .template quasis expressions =>
      .object [
        (tagField, .string Form.template.word),
        ("quasis".toList, .array (quasis.map Quasi.toJson)),
        ("expressions".toList, .array (itemsToJson expressions))]

def itemsToJson : List Expression → List Json
  | [] => []
  | expression :: rest => toJson expression :: itemsToJson rest
end

def tagged? : Json → Option (Json × Json)
  | .object members =>
      match members.partition fun entry => entry.1 == tagField with
      | ([(_, tag)], others) => some (tag, .object others)
      | _ => none
  | .array (tag :: items) => some (tag, .array items)
  | _ => none

-- An expression inside another one may also give its form by number.
def formOf? (inner : Bool) : Json → Option Form
  | .string word => Form.ofWord? word
  | .number (.natural n) => if inner then Form.all[n]? else none
  | _ => none

def read? : Nat → Bool → Json → Option Expression
  | 0, _, _ => none
  | depth + 1, inner, json => do
      let (tag, record) ← tagged? json
      let form ← formOf? inner tag
      let fields ← record.fields? form.fieldNames
      match form, fields with
      | .literal, [some (.string value)] => return .literal value
      | .identifier, [some (.string name)] => return .identifier name
      | .member, [some object, some (.string property)] => return .member (← read? depth true object) property
      | .template, [some (.array quasis), some (.array expressions)] =>
          return .template (← quasis.mapM Quasi.ofJson?) (← expressions.mapM (read? depth true))
      | _, _ => none

-- Arrays and objects may stand this deep inside one another, in all of the value.
def nestingLimit : Nat := 127

def ofJson? (json : Json) : Option Expression :=
  if json.isPlain && json.height ≤ nestingLimit then read? (json.height + 1) false json else none

end Expression

end Interpolation
