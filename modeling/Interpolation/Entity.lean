import Interpolation.Text.Basic

set_option autoImplicit false

namespace Interpolation

open Text

inductive Kind where
  | resource
  | data
  | input
  | localValue
  | moduleCall
deriving DecidableEq, Repr

namespace Kind

def all : List Kind := [.resource, .data, .input, .localValue, .moduleCall]

-- The first segment of an address of this kind; a resource is commonly addressed by its type instead.
def word : Kind → Text
  | .resource => "resource".toList
  | .data => "data".toList
  | .input => "var".toList
  | .localValue => "local".toList
  | .moduleCall => "module".toList

def ofWord? (t : Text) : Option Kind := all.find? fun kind => kind.word == t

def isNamedAlone : Kind → Bool
  | .resource | .data => false
  | .input | .localValue | .moduleCall => true

end Kind

inductive Entity where
  | resource (type name : Text)
  | data (type : Text) (name : Option Text)
  | input (name : Text)
  | localValue (name : Text)
  | moduleCall (name : Text)
deriving DecidableEq, Repr

namespace Entity

def ofSegments? : List Text → Option Entity
  | first :: second :: rest =>
      match Kind.ofWord? first with
      | some .data => some (.data second rest.head?)
      | some .input => some (.input second)
      | some .localValue => some (.localValue second)
      | some .moduleCall => some (.moduleCall second)
      | some .resource | none => some (.resource first second)
  | _ => none

def ofId? (id : Text) : Option Entity := ofSegments? (segments id)

def kind : Entity → Kind
  | .resource .. => .resource
  | .data .. => .data
  | .input _ => .input
  | .localValue _ => .localValue
  | .moduleCall _ => .moduleCall

def address : Entity → List Text
  | .resource type name => [type, name]
  | .data type name => Kind.data.word :: type :: name.toList
  | .input name => [Kind.input.word, name]
  | .localValue name => [Kind.localValue.word, name]
  | .moduleCall name => [Kind.moduleCall.word, name]

def reach : Entity → Nat
  | .data .. => 3
  | _ => 2

def isNamedBy (entity : Entity) (segments : List Text) : Bool := segments.take entity.reach == entity.address

end Entity

end Interpolation
