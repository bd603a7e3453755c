import Interpolation.Command.Run

set_option autoImplicit false

namespace Interpolation

def attempt {α : Type} (action : IO α) : IO (Option α) := do
  match ← action.toBaseIO with
  | .ok value => return some value
  | .error _ => return none

instance : Store IO where
  isPresent path := return (← attempt (IO.FS.realPath (String.ofList path))).isSome
  readText? path := return (← attempt (IO.FS.readFile (String.ofList path))).map String.toList
  makeDirectories path := return (← attempt (IO.FS.createDirAll (String.ofList path))).isSome
  writeText path text :=
    return (← attempt (IO.FS.writeFile (String.ofList path) (String.ofList text))).isSome
  rename source target :=
    return (← attempt (IO.FS.rename (String.ofList source) (String.ofList target))).isSome

def complain (t : Text) : IO Unit := IO.eprintln (String.ofList t)

def deliver (report : Report) : IO Unit := do
  for dropping in report.dropped do
    if dropping.severity = .warning then complain dropping.describe
  IO.print (String.ofList report.output)
  if report = .misused then complain Command.usage
  if let some message := report.errorLine? then complain message

end Interpolation

def main (arguments : List String) : IO UInt32 := do
  let report ← Interpolation.Command.runArguments (arguments.map String.toList)
  Interpolation.deliver report
  return report.status.toUInt32
