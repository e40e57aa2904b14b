import NodeBootstrap.CommandLine.Invocation
import NodeBootstrap.Execution.Process
import NodeBootstrap.Node.Upgrade
import NodeBootstrap.Sizing
import NodeBootstrap.Table.Views

/-!
# Carrying invocations out

* `Surroundings`: what an invocation needs of the host besides its files;
* `Fault`: why an invocation did not succeed, and what the operator is told;
* `Invocation.run`: carries an invocation out;
* `Outcome`: what is printed, what went wrong and the exit status.
-/

namespace NodeBootstrap.CommandLine

/-- What an invocation needs of the host besides its files. -/
structure Surroundings where
  /-- What runs commands, each for so many milliseconds at most. -/
  executor : Option Nat → Executor
  /-- Whether there is a program of some name. -/
  hasProgram : String → Bool
  /-- The memory of the host in bytes. -/
  memory : UInt64 := 0

/-- Why an invocation did not succeed. -/
inductive Fault where
  | badVersion (given : String) (cause : Failure)
  | badParameters (cause : LoadFault)
  | badAddons (directory : String) (cause : Failure)
  | notAllowed (target : Version) (cause : Failure)
  | unsuccessful (lead : String) (cause : Failure)
  | plain (cause : Failure)
deriving DecidableEq, Repr

namespace Fault

/-- The fault in words, and then its cause, if there is one that is not in the words. -/
def chain : Fault → List String
  | badVersion given cause => ["Invalid --kubernetes-version '" ++ given ++ "'", cause.message]
  | badParameters cause => cause.chain
  | badAddons directory cause => ["Failed to load add-ons from " ++ directory, cause.message]
  | notAllowed target _ => ["Upgrade to " ++ target.text ++ " is not allowed"]
  | unsuccessful lead cause => [lead ++ ": " ++ cause.message]
  | plain cause => [cause.message]

/-- What is printed before the fault is told. -/
def shown : Fault → String
  | notAllowed target cause => cause.rejectionView target ++ "\n"
  | _ => ""

end Fault

/-- Something done on a host that may fail with a fault that the operator is told. -/
abbrev Task := ExceptT Fault (StateM Session)

namespace Task

/-- An action whose failure becomes a fault. -/
def ofAct (f : Failure → Fault) (a : Act Session α) : Task α := ExceptT.adapt f a

/-- A result whose failure becomes a fault. -/
def ofResult (f : ε → Fault) (x : Except ε α) : Task α := ExceptT.mk (pure (x.mapError f))

/-- The files as they are. -/
def files : Task FileTree := return (← get).tree

end Task

namespace Invocation

/-- The version that was given. -/
def versionOf (given : String) : Task Version :=
  Task.ofResult (.badVersion given) (Version.read given)

/-- The parameters that were given. -/
def parametersOf (s : Sources) : Task Parameters := do
  Task.ofResult .badParameters (s.load (← Task.files))

/-- The parameters for a node on this host, which keeps some memory back. -/
def withReserve (e : Surroundings) (p : Parameters) : Parameters :=
  { p with
    kubelet :=
      { p.kubelet with
        reservedMemory := p.kubelet.reservedMemory.or (some (Sizing.reservedMemory e.memory)) } }

/-- The add-ons of a directory, or none without one. -/
def addonsOf : Option String → Task (List Addon)
  | some dir => do Task.ofResult (.badAddons dir) (Addon.loadDir (← Task.files) dir)
  | none => return []

/-- Renders a configuration, to a file or to be printed. -/
def runRender (version : String) (asJoin : Bool) (output : Option String) (sources : Sources) :
    Task String := do
  let v ← versionOf version
  let p ← parametersOf sources
  let s ← Task.ofResult .plain (Selection.of v)
  let r ← Task.ofResult .plain (if asJoin then Rendering.join s p else Rendering.init s p)
  match output with
  | some path =>
    Task.ofAct .plain (Session.onFiles (PrivateFile.write path r.text))
    return s.summaryView path ++ "\n"
  | none => return r.text

/-- Sets up the first node of a cluster. -/
def runInstall (e : Surroundings) (x : Executor) (version config : String)
    (addons : Option String) (sources : Sources) : Task String := do
  let v ← versionOf version
  let p := withReserve e (← parametersOf sources)
  let as ← addonsOf addons
  let n : Node := { configPath := config }
  Task.ofAct (.unsuccessful "Install failed") (n.install x v p as)
  return "✓ Kubernetes " ++ v.text ++ " control plane installed\n"

/-- Joins this host to a cluster. -/
def runJoin (e : Surroundings) (x : Executor) (version config : String) (sources : Sources) :
    Task String := do
  let v ← versionOf version
  let p := withReserve e (← parametersOf sources)
  let n : Node := { configPath := config }
  Task.ofAct (.unsuccessful "Join failed") (n.join x v p)
  return "✓ Node joined Kubernetes " ++ v.text ++ " cluster\n"

/-- Undoes what was set up on this host. -/
def runReset (x : Executor) (criSocket : String) : Task String := do
  Task.ofAct (.unsuccessful "Reset failed") (({} : Node).reset x criSocket)
  return "✓ Node reset\n"

/-- What the operator is told of a finished upgrade. -/
def upgradeText (role : Role) (r : Report) : String :=
  "✓ " ++ role.name ++ " node upgraded from " ++ r.start.text ++ " to " ++ r.target.text ++ " (" ++
    r.move.name ++ " upgrade)\n"

/-- Upgrades this node; it is configured anew only where parameters were given. -/
def runUpgrade (e : Surroundings) (x : Executor) (version : String) (role : Role)
    (kubeconfig config : String) (sources : Sources) : Task String := do
  let v ← versionOf version
  let p ← if sources.any then some <$> parametersOf sources else pure none
  let m ← Task.ofResult .plain (PackageManager.detect e.hasProgram)
  let n : Node :=
    { configPath := config, packages := some m, kubectl := { kubeconfig := kubeconfig } }
  let r ← Task.ofAct (.unsuccessful "Upgrade failed") (n.upgrade x v role p)
  return upgradeText role r

/-- Why a plan was not made. -/
def planFault (target : Version) (cause : Failure) : Fault :=
  if cause.forbidsUpgrade then .notAllowed target cause
  else .unsuccessful "Failed to plan upgrade" cause

/-- Plans an upgrade of this node. -/
def runPlan (x : Executor) (version : String) (role : Role) (kubeconfig : String) :
    Task String := do
  let v ← versionOf version
  let n : Node := { kubectl := { kubeconfig := kubeconfig } }
  let p ← Task.ofAct (planFault v) (n.planUpgrade x v role)
  return p.view role ++ "\n"

/-- Carries an invocation out and returns what is printed at its end. -/
def run (e : Surroundings) (i : Invocation) : Task String :=
  let x := e.executor i.limit
  match i with
  | render version asJoin output sources => runRender version asJoin output sources
  | install version config addons _ sources => runInstall e x version config addons sources
  | join version config _ sources => runJoin e x version config sources
  | reset criSocket _ => runReset x criSocket
  | upgrade version role kubeconfig config _ sources =>
    runUpgrade e x version role kubeconfig config sources
  | plan version role kubeconfig => runPlan x version role kubeconfig

end Invocation

/-- How an invocation ended: what was printed at its end, and what went wrong, if anything did. -/
structure Outcome where
  printed : String
  fault : Option Fault := none
deriving DecidableEq, Repr

namespace Outcome

/-- The outcome of a result. -/
def of : Except Fault String → Outcome
  | .ok printed => ⟨printed, none⟩
  | .error fault => ⟨fault.shown, some fault⟩

/-- The exit status. -/
def exitStatus (o : Outcome) : Nat := if o.fault.isSome then 1 else 0

end Outcome

/-- The outcome of an invocation on some files, and the session after it. -/
def Invocation.outcome (e : Surroundings) (i : Invocation) (t : FileTree) : Outcome × Session :=
  let (r, s) := (ExceptT.run (i.run e)).run ⟨t, []⟩
  (.of r, s)

end NodeBootstrap.CommandLine
