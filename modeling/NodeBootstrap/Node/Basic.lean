import NodeBootstrap.Addon.Render
import NodeBootstrap.Command.Packages
import NodeBootstrap.Command.Tools
import NodeBootstrap.Document.Render
import NodeBootstrap.Execution.Basic

/-!
# Setting a node up

* `Node`: the tools of a node and where it keeps its files;
* `Node.install`, `Node.join`, `Node.reset`: sets up a first node or a further one, or undoes it;
* `Node.applyAddons`: what a first node runs once it is up.

Until the node is up any failure is followed by a reset, whose own outcome counts nothing.
-/

namespace NodeBootstrap

/-- Where a node keeps its configuration. -/
def defaultConfigPath : String := "/etc/kubernetes/kubeadm.conf"

/-- The tools of a node and where it keeps its files. -/
structure Node where
  kubeadm : Kubeadm := {}
  kubectl : Kubectl := {}
  systemctl : Systemctl := {}
  packages : Option PackageManager := none
  configPath : OsText := defaultConfigPath
  addonDir : OsText := "/etc/kubernetes/addons"
deriving DecidableEq, Repr, Inhabited

namespace Node

/-- Runs a command of which only its success counts. -/
def perform (x : Executor) (c : Command) : Act Session Unit := do
  let _ ← Session.run x c

/-- Puts a rendered configuration where the tools read it. -/
def store (n : Node) (r : Rendering) : Act Session Unit :=
  Session.onFiles (PrivateFile.write n.configPath r.text)

/-- The configuration of a first node of some version. -/
def initRendering (v : Version) (p : Parameters) : Except Failure Rendering := do
  Rendering.init (← Selection.of v) p

/-- The configuration of a further node of some version. -/
def joinRendering (v : Version) (p : Parameters) : Except Failure Rendering := do
  Rendering.join (← Selection.of v) p

/-- Undoes what was set up. -/
def reset (n : Node) (x : Executor) (criSocket : String) : Act Session Unit :=
  perform x (n.kubeadm.reset criSocket)

/-- Does the first steps of a node; if they fail, the node is reset and the first failure stays. -/
def compensated (n : Node) (x : Executor) (p : Parameters) (steps : Act Session Unit) :
    Act Session Unit := do
  match ← steps.attempt with
  | .ok () => return ()
  | .error e =>
    let _ ← (n.reset x p.effectiveCriSocket).attempt
    throw e

/-- Has the node agent run now and at every start. -/
def startAgent (n : Node) (x : Executor) : Act Session Unit := do
  perform x (n.systemctl.enable Systemctl.nodeAgent)
  perform x (n.systemctl.start Systemctl.nodeAgent)

/-- Stores a configuration and runs the command that reads it. -/
def enter (n : Node) (x : Executor) (r : Except Failure Rendering) (c : Command) :
    Act Session Unit := do
  n.store (← Act.ofExcept r)
  perform x c

/-- Writes the manifest of an add-on and applies it. -/
def applyAddon (n : Node) (x : Executor) (values : List (String × Template.Value)) (a : Addon) :
    Act Session Unit := do
  let manifest ← Act.ofExcept (a.render values)
  let path := a.targetPath n.addonDir
  Session.onFiles (PrivateFile.write path manifest)
  perform x (n.kubectl.apply path)

/-- Writes and applies add-ons in order. -/
def applyAddons (n : Node) (x : Executor) (values : List (String × Template.Value)) :
    List Addon → Act Session Unit
  | [] => return ()
  | a :: as => do
    n.applyAddon x values a
    n.applyAddons x values as

/-- Sets up the first node of a cluster. -/
def install (n : Node) (x : Executor) (v : Version) (p : Parameters) (addons : List Addon) :
    Act Session Unit := do
  n.compensated x p (n.enter x (initRendering v p) (n.kubeadm.init n.configPath))
  n.startAgent x
  n.applyAddons x (Addon.values v p) addons

/-- Sets up a further node of a cluster. -/
def join (n : Node) (x : Executor) (v : Version) (p : Parameters) : Act Session Unit := do
  n.compensated x p (n.enter x (joinRendering v p) (n.kubeadm.join n.configPath))
  n.startAgent x

end Node

end NodeBootstrap
