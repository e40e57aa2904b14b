import NodeBootstrap.Cluster.RecordedVersion
import NodeBootstrap.Cluster.VersionReport
import NodeBootstrap.Node.Basic
import NodeBootstrap.Upgrade.Governor

/-!
# Upgrading a node

* `Node.observe`: asks the cluster for its versions;
* `Node.converge`: brings the node to one version;
* `Node.planUpgrade`, `Node.upgrade`: plans an upgrade, or carries it out.
-/

namespace NodeBootstrap.Node

/-- Asks the cluster for its versions. -/
def observe (n : Node) (x : Executor) : Act Session Observation := do
  let output ← Session.run x n.kubectl.version
  let reported ← Act.ofExcept (VersionReport.read output.stdout)
  let output ← Session.run x n.kubectl.config
  let recorded ← Act.ofExcept (RecordedVersion.read output.stdout)
  return ⟨reported.client, reported.server, recorded⟩

/-- The package manager that was chosen. -/
def packageManager (n : Node) : Except Failure PackageManager :=
  match n.packages with
  | some m => .ok m
  | none => .error (.config .noPackageManagerSet)

/-- Brings a node of some role to a version, and stores a configuration if there is one. -/
def converge (n : Node) (x : Executor) (role : Role) (stored : Option Rendering) (v : Version) :
    Act Session Unit := do
  let m ← Act.ofExcept n.packageManager
  perform x (m.install PackageManager.nodePackages v)
  match stored with
  | some r => n.store r
  | none => pure ()
  perform x (n.kubeadm.upgrade role v)
  perform x n.systemctl.daemonReload
  perform x (n.systemctl.restart Systemctl.nodeAgent)

/-- What the node offers for an upgrade. Only the last step stores a configuration. -/
def routines (n : Node) (x : Executor) (role : Role) (stored : Option Rendering) :
    Routines Session where
  observe := n.observe x
  minor v := n.converge x role none v
  patch v := n.converge x role stored v

/-- The configuration that a node of some role keeps. -/
def renderingFor (v : Version) (role : Role) (p : Parameters) : Except Failure Rendering :=
  match role with
  | .primary => initRendering v p
  | .controlPlane => joinRendering v p
  | .worker => joinRendering v p

/-- The configuration to store for parameters that may be given. -/
def storedFor (v : Version) (role : Role) (p : Option Parameters) :
    Except Failure (Option Rendering) :=
  match p with
  | some p => (renderingFor v role p).map some
  | none => .ok none

/-- Plans an upgrade and changes nothing. -/
def planUpgrade (n : Node) (x : Executor) (target : Version) (role : Role) : Act Session Plan :=
  Governor.plan (n.routines x role none) target

/-- Upgrades a node. Where parameters are given, the configuration is rendered for the target
before anything else happens. -/
def upgrade (n : Node) (x : Executor) (target : Version) (role : Role) (p : Option Parameters) :
    Act Session Report := do
  let stored ← Act.ofExcept (storedFor target role p)
  Governor.upgrade (n.routines x role stored) target

end NodeBootstrap.Node
