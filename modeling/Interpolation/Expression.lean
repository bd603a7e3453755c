import Interpolation.Text.Basic

set_option autoImplicit false

namespace Interpolation

structure Quasi where
  raw : Text
  tail : Bool
deriving DecidableEq, Repr

inductive Expression where
  | literal (value : Text)
  | identifier (name : Text)
  | member (object : Expression) (property : Text)
  | template (quasis : List Quasi) (expressions : List Expression)

namespace Expression

inductive Form where
  | literal
  | identifier
  | member
  | template
deriving DecidableEq, Repr

namespace Form

def all : List Form := [.literal, .identifier, .member, .template]

def word : Form → Text
  | .literal => "string_literal".toList
  | .identifier => "identifier".toList
  | .member => "member".toList
  | .template => "template".toList

end Form

def form : Expression → Form
  | .literal _ => .literal
  | .identifier _ => .identifier
  | .member .. => .member
  | .template .. => .template

def path? : Expression → Option (List Text)
  | .identifier name => some [name]
  | .member object property => (path? object).map (· ++ [property])
  | .literal _ | .template .. => none

def access (base : Expression) (properties : List Text) : Expression := properties.foldl .member base

theorem path_access (base : Expression) (head properties : List Text) (path : path? base = some head) :
    path? (access base properties) = some (head ++ properties) := by
  induction properties generalizing base head with
  | nil => simpa [access] using path
  | cons property rest ih =>
      have longer : path? (.member base property) = some (head ++ [property]) := by simp [path?, path]
      simpa [access] using ih (.member base property) (head ++ [property]) longer

end Expression

end Interpolation
