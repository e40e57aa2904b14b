import NodeBootstrap.CommandLine.Run
import NodeBootstrap.Execution.Script

/-!
# The command line

The program tells what a command line would do on a host that has every program. It reads the file
of parameters, lists the commands and prints the rest; it runs nothing and writes no files.
-/

namespace NodeBootstrap.CommandLine

/-- The file of parameters that an invocation names. -/
def Invocation.parameterFile? : Invocation → Option String
  | render _ _ _ s => s.file
  | install _ _ _ _ s => s.file
  | join _ _ _ s => s.file
  | upgrade _ _ _ _ _ s => s.file
  | reset .. => none
  | plan .. => none

/-- A host that has every program; each of them succeeds silently. -/
def rehearsal : Surroundings := ⟨fun _ => Script.executor [], fun _ => true, 0⟩

/-- A command as it is listed. -/
def listed (c : Command) : String := "+ " ++ c.line ++ "\n"

/-- A fault as it is told. -/
def told (f : Fault) : String := "Error: " ++ Text.glue ": " f.chain ++ "\n"

/-- The files that an invocation reads. -/
def readFiles (i : Invocation) : IO FileTree := do
  match i.parameterFile? with
  | none => return {}
  | some path =>
    match ← (IO.FS.readBinFile path).toBaseIO with
    | .ok bytes => return ({} : FileTree).place path (.file 0o644 (.ofOctets bytes.toList))
    | .error _ => return {}

/-- Tells what an invocation would do. -/
def rehearse (i : Invocation) : IO UInt32 := do
  let (outcome, session) := i.outcome rehearsal (← readFiles i)
  IO.print (String.join (session.commands.map listed))
  IO.print outcome.printed
  match outcome.fault with
  | some fault => IO.eprint (told fault)
  | none => pure ()
  return UInt32.ofNat outcome.exitStatus

end NodeBootstrap.CommandLine

/-- Reads a command line and tells what it would do. -/
def main (args : List String) : IO UInt32 := do
  match NodeBootstrap.CommandLine.Invocation.read args with
  | .ok i => NodeBootstrap.CommandLine.rehearse i
  | .error usage =>
    IO.print usage.printed
    return UInt32.ofNat usage.exitStatus
