import NodeBootstrap.Execution.Process

/-!
# Hosts that follow a script

A script answers commands by rules. It serves to try out what a node would do without running
anything.

* `Rule`, `Script`: the rules and how often each may still be used;
* `Script.choose`: the rule for a command, and the script after its use;
* `Script.executor`: the script as something that runs commands;
* `Script.host`: a host with some programs that write what the script says.
-/

namespace NodeBootstrap

/-- An answer to the commands whose line contains some text. -/
structure Rule where
  part : String := ""
  output : String := ""
  /-- The exit status, or none for a program that a signal ended. -/
  status : Option Int := some 0
  /-- How often the rule may still be used, if not always. -/
  times : Option Nat := none
deriving DecidableEq, Repr, Inhabited

namespace Rule

/-- Whether the rule answers a command. -/
def applies (r : Rule) (c : Command) : Bool := r.times != some 0 && Text.occurs r.part c.line

/-- The rule after one use. -/
def used (r : Rule) : Rule := { r with times := r.times.map (· - 1) }

/-- The rule's answer to a command. -/
def answer (r : Rule) (c : Command) : Except Failure Output :=
  if r.status = some 0 then .ok ⟨some 0, r.output, "", r.output⟩
  else .error (.command c.program c.arguments r.status r.output)

end Rule

/-- Rules, of which the first that applies answers. -/
abbrev Script := List Rule

namespace Script

/-- The rule that answers a command, if there is one, and the rules after its use. -/
def choose (c : Command) : Script → Option Rule × Script
  | [] => (none, [])
  | r :: rs =>
    if r.applies c then (some r, r.used :: rs)
    else ((choose c rs).1, r :: (choose c rs).2)

/-- The script after some commands. -/
def after (s : Script) (cs : List Command) : Script := cs.foldl (fun s c => (choose c s).2) s

/-- The script as something that runs commands; without a rule a command succeeds silently. -/
def executor (s : Script) : Executor := fun past c =>
  match (choose c (s.after past)).1 with
  | some r => r.answer c
  | none => .ok {}

/-- A host with some programs; they write what the script says to their first stream. -/
def host (hasProgram : String → Bool) (s : Script) : Host := fun past c =>
  if hasProgram c.program then
    match (choose c (s.after (past.filter fun c => hasProgram c.program))).1 with
    | some r => .ok { writes := [⟨0, .out, Utf8.encode r.output⟩], status := r.status }
    | none => .ok {}
  else .error .notFound

end Script

end NodeBootstrap
