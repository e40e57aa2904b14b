import NodeBootstrap.CommandLine.Read
import NodeBootstrap.Command.Tools
import NodeBootstrap.Node.Basic
import NodeBootstrap.Parameters.Sources

/-!
# Invocations

* `Invocation`: a whole command line by what it asks for;
* `Invocation.of`: what a verb with its settings asks for;
* `Invocation.read`: what a command line asks for, or why it asks for nothing.
-/

namespace NodeBootstrap.CommandLine

/-- A whole command line by what it asks for. Times are in seconds. -/
inductive Invocation where
  | render (version : String) (asJoin : Bool) (output : Option String) (sources : Sources)
  | install (version config : String) (addons : Option String) (timeout : Option Nat)
      (sources : Sources)
  | join (version config : String) (timeout : Option Nat) (sources : Sources)
  | reset (criSocket : String) (timeout : Option Nat)
  | upgrade (version : String) (role : Role) (kubeconfig config : String) (timeout : Option Nat)
      (sources : Sources)
  | plan (version : String) (role : Role) (kubeconfig : String)
deriving DecidableEq, Repr, Inhabited

namespace Given

/-- The sources of parameters that are given. -/
def sources (g : Given) : Sources where
  file := g.value? .configFile
  advertiseAddress := g.value? .advertiseAddress
  controlPlaneEndpoint := g.value? .controlPlaneEndpoint
  nodeName := g.value? .nodeName
  criSocket := g.value? .criSocket
  podSubnet := g.value? .podSubnet
  serviceSubnet := g.value? .serviceSubnet
  cloudProvider := g.value? .cloudProvider
  nodePool := g.value? .nodePool
  taints := g.value? .taints
  overrides := g.values .property

/-- The version that is given. -/
def version (g : Given) : String := (g.value? .kubernetesVersion).getD ""

/-- The limit of time that is given. -/
def timeout (g : Given) : Option Nat :=
  (g.value? .timeout).bind fun s => Decimal.read? Setting.numberBound s.toList

/-- The role that is given, or that of a first node. -/
def role (g : Given) : Role :=
  ((g.value? .role).bind fun s => (Role.read s).toOption).getD .primary

/-- Where the configuration is kept. -/
def kubeadmConfig (g : Given) : String :=
  (g.value? .kubeadmConfig).getD defaultConfigPath

/-- The credentials for the cluster. -/
def kubeconfig (g : Given) : String := (g.value? .kubeconfig).getD ({} : Kubectl).kubeconfig

/-- The socket of the container runtime. -/
def criSocket (g : Given) : String := (g.value? .criSocket).getD defaultCriSocket

end Given

namespace Invocation

/-- What a verb with its settings asks for. -/
def of (g : Given) : Verb → Invocation
  | .render => .render g.version (g.has .asJoin) (g.value? .output) g.sources
  | .install => .install g.version g.kubeadmConfig (g.value? .addons) g.timeout g.sources
  | .join => .join g.version g.kubeadmConfig g.timeout g.sources
  | .reset => .reset g.criSocket g.timeout
  | .upgrade => .upgrade g.version g.role g.kubeconfig g.kubeadmConfig g.timeout g.sources
  | .plan => .plan g.version g.role g.kubeconfig

/-- Whether a word may come first. -/
def isFirstWord (s : String) : Bool := s == helpWord || (Verb.ofName? s).isSome

/-- What help is asked for: about everything, or about a verb, which has nothing below it. -/
def readHelp : List String → Usage
  | [] => .help
  | [w] => if isFirstWord w then .help else .unknownVerb
  | _ => .unknownVerb

/-- What a command line asks for whose first word is two dashes. -/
def readAfterDashes : List String → Usage
  | [] => .nothingAsked
  | w :: _ => if isFirstWord w then .unknownSetting else .unknownVerb

/-- What a command line asks for that begins with a spelling of a setting. -/
def readLeading : Word → Usage
  | .long name value =>
    if name = helpWord ∨ name = versionWord then
      if value.isSome then .needlessValue
      else if name = helpWord then .help
      else .version
    else .unknownSetting
  | .short letter _ =>
    if letter = helpLetter then .help
    else if letter = versionLetter then .version
    else .unknownSetting
  | _ => .unknownVerb

/-- What a command line asks for. -/
def read : List String → Except Usage Invocation
  | [] => .error .nothingAsked
  | w :: ws =>
    match Verb.ofName? w with
    | some v => (v.read ws).map fun g => of g v
    | none =>
      if w = helpWord then .error (readHelp ws)
      else match Word.of w with
        | .dashes => .error (readAfterDashes ws)
        | leading => .error (readLeading leading)

/-- The limit of time for each command, in milliseconds. -/
def limit : Invocation → Option Nat
  | install _ _ _ t _ => t.map (· * 1000)
  | join _ _ t _ => t.map (· * 1000)
  | reset _ t => t.map (· * 1000)
  | upgrade _ _ _ _ t _ => t.map (· * 1000)
  | render .. => none
  | plan .. => none

end Invocation

end NodeBootstrap.CommandLine
