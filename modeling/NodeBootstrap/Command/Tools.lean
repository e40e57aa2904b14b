import NodeBootstrap.Command.Basic
import NodeBootstrap.Role
import NodeBootstrap.Text.OsText
import NodeBootstrap.Version.Basic

/-!
# The tools of a node

The commands that a node is set up with.

* `Kubeadm`: starts, joins, resets and upgrades a node;
* `Kubectl`: asks the cluster and applies manifests, with credentials for each command alone;
* `Systemctl`: the services of the host.
-/

namespace NodeBootstrap

/-- The tool that sets nodes up. -/
structure Kubeadm where
  program : String := "kubeadm"
deriving DecidableEq, Repr, Inhabited

namespace Kubeadm

/-- A command of the tool. -/
def command (k : Kubeadm) (arguments : List String) : Command := ⟨k.program, arguments, [], false⟩

/-- Starts the first node from a configuration. -/
def init (k : Kubeadm) (config : OsText) : Command :=
  k.command ["init", "--config=" ++ config.shown]

/-- Joins a further node by a configuration. -/
def join (k : Kubeadm) (config : OsText) : Command :=
  k.command ["join", "--config=" ++ config.shown]

/-- Undoes what the tool has set up. -/
def reset (k : Kubeadm) (criSocket : String) : Command :=
  k.command ["reset", "--force", "--cri-socket=" ++ criSocket]

/-- Upgrades a node of a role to a version. -/
def upgrade (k : Kubeadm) (role : Role) (version : Version) : Command :=
  k.command <| "upgrade" :: (match role with
    | .primary => ["apply", "-f", version.tag]
    | .controlPlane => ["node", "experimental-control-plane", version.tag]
    | .worker => ["node", "config", "--kubelet-version", version.tag])

end Kubeadm

/-- The tool that talks to the cluster. -/
structure Kubectl where
  program : String := "kubectl"
  kubeconfig : String := "/etc/kubernetes/admin.conf"
deriving DecidableEq, Repr, Inhabited

/-- The object in which a cluster keeps its configuration, and the entry of it that counts. -/
structure StoredConfig where
  nameSpace : String
  name : String
  entry : String

namespace Kubectl

/-- Where a cluster keeps its configuration. -/
def storedConfig : StoredConfig := ⟨"kube-system", "kubeadm-config", "ClusterConfiguration"⟩

/-- The variable that names the credentials. -/
def credentialsVariable : String := "KUBECONFIG"

/-- A command of the tool. -/
def command (k : Kubectl) (arguments : List String) (quiet : Bool) : Command :=
  ⟨k.program, arguments, [(credentialsVariable, k.kubeconfig)], quiet⟩

/-- Asks for the versions of the client and the server. -/
def version (k : Kubectl) : Command := k.command ["version", "-o", "json"] true

/-- Asks for the configuration that the cluster keeps. -/
def config (k : Kubectl) : Command :=
  k.command ["get", "configmap", storedConfig.name, "-n", storedConfig.nameSpace, "-o", "json"] true

/-- Applies a manifest. -/
def apply (k : Kubectl) (manifest : OsText) : Command :=
  k.command ["apply", "-f", manifest.shown] false

end Kubectl

/-- The tool that runs services. -/
structure Systemctl where
  program : String := "systemctl"
deriving DecidableEq, Repr, Inhabited

namespace Systemctl

/-- The service of the node agent. -/
def nodeAgent : String := "kubelet"

/-- A command of the tool. -/
def command (s : Systemctl) (arguments : List String) : Command := ⟨s.program, arguments, [], false⟩

/-- Has a service start with the host. -/
def enable (s : Systemctl) (unit : String) : Command := s.command ["enable", unit]

/-- Starts a service. -/
def start (s : Systemctl) (unit : String) : Command := s.command ["start", unit]

/-- Stops a service and starts it again. -/
def restart (s : Systemctl) (unit : String) : Command := s.command ["restart", unit]

/-- Reads the definitions of services again. -/
def daemonReload (s : Systemctl) : Command := s.command ["daemon-reload"]

end Systemctl

end NodeBootstrap
