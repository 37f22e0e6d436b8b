import TargetResolution.CommandLine.Program

/-!
The program on the host. The tokens of the command line, the texts of the named files and the paths
that exist come from the host; all else is decided by the searches.
-/

namespace TargetResolution.CommandLine

/-- What stands under the name of a file, by the failure to read it. Codes of the operating system
may come with a sign. A failure that says nothing about the name is left alone. -/
def stateOfFailure? : IO.Error → Option FileState
  | .noFileOrDirectory .. => some .missing
  | .inappropriateType _ code _ => some (if code = 21 ∨ code = -21 then .directory else .missing)
  | .invalidArgument _ code _ => some (if code = 36 ∨ code = -36 then .nameTooLong else .missing)
  | _ => none

/-- What stands under the name of a file on the host. -/
def hostState (file : String) : IO FileState := do
  try
    let content ← IO.FS.readFile file
    pure (.text content)
  catch failure =>
    match stateOfFailure? failure with
    | some state => pure state
    | none => throw failure

/-- Whether a path exists on the host. No path has a null character in it. -/
def hostContains (path : String) : IO Bool := do
  if '\x00' ∈ path.toList then pure false
  else
    try
      let _ ← IO.FS.realPath path
      pure true
    catch _ => pure false

/-- What a command line leaves behind on the host. -/
def Outcome.runOnHost (outcome : Outcome) : IO Transcript :=
  match outcome with
  | .invocation ⟨verbose, quiet, some command⟩ => do
    let states ← command.files.mapM fun file => do
      let state ← hostState file
      pure (file, state)
    let search := command.search fun file => (states.lookup file).getD .missing
    let (result, events) ← search.perform hostContains
    pure (Invocation.transcript ⟨verbose, quiet, some command⟩ result events)
  | _ => pure (outcome.run (fun _ => .missing) fun _ => false)

end TargetResolution.CommandLine

/-- The program. -/
def main (tokens : List String) : IO UInt32 := do
  let t ← (TargetResolution.CommandLine.Outcome.ofTokens tokens).runOnHost
  (← IO.getStderr).putStr (t.usage ++ t.errors)
  (← IO.getStdout).putStr t.output
  pure t.status.toUInt32
