import Interpolation.Files.Documents

set_option autoImplicit false

/- The command line: a command, then its options and operands in any order. An option takes a value, given as the next
   argument or in the same one. After two dashes all arguments are operands. -/
namespace Interpolation

open Text

inductive Command where
  | init (settings : Path)
  | convert (catalog settings : Path) (policy : Option Policy) (inputs : List Text)
  | references (catalog : Path) (input : Text)
deriving DecidableEq, Repr

inductive Flag where
  | catalog
  | settings
  | policy
deriving DecidableEq, Repr

namespace Flag

def long : Flag → Text
  | .catalog => "catalog".toList
  | .settings => "config".toList
  | .policy => "discard-policy".toList

def short? : Flag → Option Char
  | .catalog => some 'c'
  | .settings | .policy => none

end Flag

inductive Argument where
  | operand
  | operandsOnly
  | option (flag : Flag) (value : Option Text)
  | unknown
deriving DecidableEq, Repr

namespace Argument

def ofLong (flags : List Flag) (body : Text) : Argument :=
  let (name, value) :=
    match cut? ['='] body with
    | some (name, value) => (name, some value)
    | none => (body, none)
  match flags.find? fun flag => flag.long == name with
  | some flag => .option flag value
  | none => .unknown

def ofShort (flags : List Flag) (letter : Char) (body : Text) : Argument :=
  match flags.find? fun flag => flag.short? == some letter with
  | none => .unknown
  | some flag =>
      match body with
      | [] => .option flag none
      | '=' :: value => .option flag (some value)
      | value => .option flag (some value)

def classify (flags : List Flag) : Text → Argument
  | ['-', '-'] => .operandsOnly
  | '-' :: '-' :: body => ofLong flags body
  | '-' :: letter :: body => ofShort flags letter body
  | _ => .operand

end Argument

structure Arguments where
  options : List (Flag × Text)
  operands : List Text
deriving DecidableEq, Repr

namespace Arguments

def withOption (flag : Flag) (value : Text) (arguments : Arguments) : Arguments :=
  { arguments with options := (flag, value) :: arguments.options }

def withOperand (operand : Text) (arguments : Arguments) : Arguments :=
  { arguments with operands := operand :: arguments.operands }

-- The second argument is the option whose value is awaited; no option may stand in its place.
def scan? (flags : List Flag) : Option Flag → List Text → Option Arguments
  | none, [] => some ⟨[], []⟩
  | some _, [] => none
  | some flag, value :: rest =>
      if Argument.classify flags value = .operand then (scan? flags none rest).map (withOption flag value)
      else none
  | none, argument :: rest =>
      match Argument.classify flags argument with
      | .operand => (scan? flags none rest).map (withOperand argument)
      | .operandsOnly => some ⟨[], rest⟩
      | .option flag (some value) => (scan? flags none rest).map (withOption flag value)
      | .option flag none => scan? flags (some flag) rest
      | .unknown => none

def values (arguments : Arguments) (flag : Flag) : List Text :=
  (arguments.options.filter fun option => option.1 == flag).map Prod.snd

def path? (arguments : Arguments) (flag : Flag) : Option (Option Path) :=
  match arguments.values flag with
  | [] => some none
  | [path] => if path.isEmpty then none else some (some path)
  | _ => none

def policy? (arguments : Arguments) : Option (Option Policy) :=
  match arguments.values .policy with
  | [] => some none
  | [word] => (Policy.ofWord? word).map some
  | _ => none

end Arguments

namespace Command

def initOf? (arguments : Arguments) : Option Command := do
  let settings ← arguments.path? .settings
  if arguments.operands.isEmpty then return .init (settings.getD Settings.fileName) else none

def convertOf? (arguments : Arguments) : Option Command := do
  let catalog ← ← arguments.path? .catalog
  let settings ← arguments.path? .settings
  let policy ← arguments.policy?
  if arguments.operands.isEmpty then none
  else return .convert catalog (settings.getD Settings.fileName) policy arguments.operands

def referencesOf? (arguments : Arguments) : Option Command := do
  let catalog ← ← arguments.path? .catalog
  match arguments.operands with
  | [input] => return .references catalog input
  | _ => none

def parse? : List Text → Option Command
  | [] => none
  | word :: rest =>
      if word = "init".toList then (Arguments.scan? [.settings] none rest).bind initOf?
      else if word = "convert".toList then
        (Arguments.scan? [.catalog, .settings, .policy] none rest).bind convertOf?
      else if word = "refs".toList then (Arguments.scan? [.catalog] none rest).bind referencesOf?
      else none

end Command

end Interpolation
