import NodeBootstrap.Act
import NodeBootstrap.Command.Basic
import NodeBootstrap.Files.Private

/-!
# Running commands

Commands are run one after the other. What a command answers may depend on all commands before it.
A session remembers the commands and how the files looked when each of them was run.

* `Executor`: what runs commands;
* `Session`: the files, and what has been run;
* `Session.run`: runs a command;
* `Session.onFiles`: does something to the files.
-/

namespace NodeBootstrap

/-- The answer to a command after the commands run before it, the first one first. -/
abbrev Executor := List Command → Command → Except Failure Output

/-- A command that was run, and the files at that time. -/
structure Call where
  command : Command
  tree : FileTree
deriving DecidableEq, Repr, Inhabited

/-- The files of a host and the commands run on it, the first one first. -/
structure Session where
  tree : FileTree := {}
  calls : List Call := []
deriving DecidableEq, Repr, Inhabited

namespace Session

/-- The commands run so far. -/
def commands (s : Session) : List Command := s.calls.map Call.command

/-- The session after one more command. -/
def called (s : Session) (c : Command) : Session := { s with calls := s.calls ++ [⟨c, s.tree⟩] }

/-- Runs a command. -/
def run (x : Executor) (c : Command) : Act Session Output :=
  Act.of fun s => (x s.commands c, s.called c)

/-- Does something to the files. -/
def onFiles (a : Act FileTree α) : Act Session α :=
  Act.of fun s => ((a.exec s.tree).1, { s with tree := (a.exec s.tree).2 })

end Session

end NodeBootstrap
