import Interpolation.Codec.Expression
import Interpolation.Command.Arguments

set_option autoImplicit false

namespace Interpolation

inductive Report where
  | done (output : Text) (dropped : List Dropping)
  | failed (failure : Failure) (dropped : List Dropping)
  | misused
deriving DecidableEq, Repr

namespace Report

def status : Report → Nat
  | .done .. => 0
  | .failed .. => 1
  | .misused => 2

def output : Report → Text
  | .done output _ => output
  | .failed .. | .misused => []

def dropped : Report → List Dropping
  | .done _ dropped | .failed _ dropped => dropped
  | .misused => []

def errorLine? : Report → Option Text
  | .failed failure _ => some ("Error: ".toList ++ failure.message)
  | .done .. | .misused => none

end Report

def line (t : Text) : Text := t ++ ['\n']

def Dropping.describe (dropping : Dropping) : Text :=
  "WARN ".toList ++ title ++ ": ".toList ++ Text.quoted dropping.text ++ " in ".toList ++
    Text.quoted dropping.input

def Reference.describe (reference : Reference) : Text :=
  Nat.toDigits 10 reference.start ++ "..".toList ++ Nat.toDigits 10 reference.stop ++ [' '] ++
    reference.target.full ++ " -> ".toList ++ reference.target.id

namespace Command

variable {m : Type → Type} [Monad m] [Store m]

def usage : Text :=
  ("usage: init [--config FILE]\n" ++
    "       convert -c FILE [--config FILE] [--discard-policy ignore|warn|error] EXPRESSION...\n" ++
    "       refs -c FILE EXPRESSION").toList

def runInit (settings : Path) : m Report := do
  match ← Settings.save settings {} with
  | .error fault => return .failed (.storage fault) []
  | .ok () => return .done (line ("Wrote default configuration to ".toList ++ settings)) []

def convertWith (resolver : Resolver) (inputs : List Text) : Report :=
  match resolver.convertAll inputs with
  | ⟨.error failure, dropped⟩ => .failed failure dropped
  | ⟨.ok expressions, dropped⟩ =>
      .done (expressions.flatMap fun expression => line expression.toJson.pretty) dropped

def runConvert (catalog settings : Path) (policy : Option Policy) (inputs : List Text) : m Report := do
  match ← Resolver.load catalog (some settings) with
  | .error fault => return .failed (.storage fault) []
  | .ok resolver => return convertWith (policy.elim resolver resolver.withPolicy) inputs

def referencesWith (resolver : Resolver) (input : Text) : Report :=
  match resolver.references input with
  | .error failure => .failed failure []
  | .ok [] => .done (line ("No references found in '".toList ++ input ++ ['\''])) []
  | .ok found => .done (found.flatMap fun reference => line reference.describe) []

def runReferences (catalog : Path) (input : Text) : m Report := do
  match ← Resolver.load catalog none with
  | .error fault => return .failed (.storage fault) []
  | .ok resolver => return referencesWith resolver input

def run : Command → m Report
  | .init settings => runInit settings
  | .convert catalog settings policy inputs => runConvert catalog settings policy inputs
  | .references catalog input => runReferences catalog input

def runArguments (arguments : List Text) : m Report :=
  match parse? arguments with
  | none => return .misused
  | some command => run command

end Command

end Interpolation
