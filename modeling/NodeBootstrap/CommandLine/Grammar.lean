import NodeBootstrap.Role
import NodeBootstrap.Text.Decimal

/-!
# The grammar of the command line

* `Setting`: what an operator may set, and how it is spelled;
* `Verb`: what an operator may ask for, and the settings that belong to it;
* `Usage`: why a command line asks for nothing, and the exit status then.
-/

namespace NodeBootstrap.CommandLine

/-- What an operator may set. -/
inductive Setting where
  | kubernetesVersion
  | asJoin
  | output
  | kubeadmConfig
  | addons
  | timeout
  | role
  | kubeconfig
  | criSocket
  | configFile
  | advertiseAddress
  | controlPlaneEndpoint
  | nodeName
  | podSubnet
  | serviceSubnet
  | cloudProvider
  | nodePool
  | taints
  | property
deriving DecidableEq, Repr, Inhabited

namespace Setting

/-- The long spelling, if there is one. -/
def long? : Setting → Option String
  | kubernetesVersion => some "kubernetes-version"
  | asJoin => some "join"
  | output => some "output"
  | kubeadmConfig => some "kubeadm-config"
  | addons => some "addons"
  | timeout => some "timeout-secs"
  | role => some "role"
  | kubeconfig => some "kubeconfig"
  | criSocket => some "cri-socket"
  | configFile => some "config-file"
  | advertiseAddress => some "advertise-address"
  | controlPlaneEndpoint => some "control-plane-endpoint"
  | nodeName => some "node-name"
  | podSubnet => some "pod-subnet"
  | serviceSubnet => some "service-subnet"
  | cloudProvider => some "cloud-provider"
  | nodePool => some "node-pool"
  | taints => some "taints"
  | property => none

/-- The letter that is short for the setting, if there is one. -/
def short? : Setting → Option Char
  | kubernetesVersion => some 'k'
  | output => some 'o'
  | property => some 'D'
  | _ => none

/-- Whether the setting is on or off and has no value. -/
def isSwitch (s : Setting) : Bool := s = asJoin

/-- Whether the setting may be given more than once. -/
def repeats (s : Setting) : Bool := s = property

/-- The numbers that can be given lie below this one. -/
def numberBound : Nat := Nat.pow 2 64

/-- Whether the setting can have a value. -/
def admits (s : Setting) (value : String) : Bool :=
  match s with
  | timeout => (Decimal.read? numberBound value.toList).isSome
  | role => (Role.read value).toOption.isSome
  | _ => true

/-- The settings for parameters of a cluster. -/
def parameters : List Setting :=
  [configFile, advertiseAddress, controlPlaneEndpoint, nodeName, criSocket, podSubnet,
   serviceSubnet, cloudProvider, nodePool, taints, property]

end Setting

/-- What an operator may ask for. -/
inductive Verb where
  | render
  | install
  | join
  | reset
  | upgrade
  | plan
deriving DecidableEq, Repr, Inhabited

namespace Verb

/-- All of them. -/
def all : List Verb := [render, install, join, reset, upgrade, plan]

/-- The word for it. -/
def name : Verb → String
  | render => "render"
  | install => "install"
  | join => "join"
  | reset => "reset"
  | upgrade => "upgrade"
  | plan => "plan"

/-- What a word asks for. -/
def ofName? (s : String) : Option Verb := all.find? fun v => v.name == s

/-- The settings that belong to it. -/
def settings : Verb → List Setting
  | render => [.kubernetesVersion, .asJoin, .output] ++ Setting.parameters
  | install => [.kubernetesVersion, .kubeadmConfig, .addons, .timeout] ++ Setting.parameters
  | join => [.kubernetesVersion, .kubeadmConfig, .timeout] ++ Setting.parameters
  | reset => [.criSocket, .timeout]
  | upgrade =>
    [.kubernetesVersion, .role, .kubeconfig, .kubeadmConfig, .timeout] ++ Setting.parameters
  | plan => [.kubernetesVersion, .role, .kubeconfig]

/-- The setting with a long spelling. -/
def long? (v : Verb) (name : String) : Option Setting :=
  v.settings.find? fun s => s.long? == some name

/-- The setting with a short spelling. -/
def short? (v : Verb) (letter : Char) : Option Setting :=
  v.settings.find? fun s => s.short? == some letter

end Verb

/-- Why a command line asks for nothing. -/
inductive Usage where
  | help
  | version
  | nothingAsked
  | unknownVerb
  | unknownSetting
  | missingSetting
  | missingValue
  | givenTwice
  | unfitValue
  | needlessValue
deriving DecidableEq, Repr, Inhabited

namespace Usage

/-- The exit status: asking for help or for the version is no fault. -/
def exitStatus : Usage → Nat
  | help => 0
  | version => 0
  | _ => 2

/-- The name and the version of the program. -/
def versionText : String := "kube-bootstrap 0.2.1-beta\n"

/-- What is printed besides help. -/
def printed : Usage → String
  | version => versionText
  | _ => ""

end Usage

/-- The word that asks for help. -/
def helpWord : String := "help"

/-- The letter that asks for help. -/
def helpLetter : Char := 'h'

/-- The word that asks for the version. -/
def versionWord : String := "version"

/-- The letter that asks for the version. -/
def versionLetter : Char := 'V'

end NodeBootstrap.CommandLine
