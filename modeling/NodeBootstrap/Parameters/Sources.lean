import NodeBootstrap.Files.Tree
import NodeBootstrap.Parameters.Overrides
import NodeBootstrap.Parameters.Read
import NodeBootstrap.Toml.Read

/-!
# Sources of parameters

An operator gives parameters in a file, as overrides, and by flags of their own. A later source
wins over an earlier one: the file first, then the overrides, then the flags.

* `Sources`: what an operator gave;
* `LoadFault`: why it could not be used;
* `Parameters.ofFile`: the parameters in a file;
* `Sources.load`: the parameters from all sources.
-/

namespace NodeBootstrap

/-- What an operator gave. -/
structure Sources where
  file : Option String := none
  advertiseAddress : Option String := none
  controlPlaneEndpoint : Option String := none
  nodeName : Option String := none
  criSocket : Option String := none
  podSubnet : Option String := none
  serviceSubnet : Option String := none
  cloudProvider : Option String := none
  nodePool : Option String := none
  taints : Option String := none
  overrides : List String := []
deriving DecidableEq, Repr, Inhabited

/-- Why the sources of parameters could not be used. -/
inductive LoadFault where
  | missingFile (path : String)
  | unusableFile (path : String) (cause : Failure)
  | badOverride (cause : OverrideFault)
  | failed (cause : Failure)
deriving DecidableEq, Repr

namespace LoadFault

/-- The fault in words, and then its cause, if there is one that is not in the words. -/
def chain : LoadFault → List String
  | missingFile path => ["❌ Parameter file not found: " ++ path]
  | unusableFile path cause => ["Failed to load parameters from " ++ path, cause.message]
  | badOverride cause => ["Failed to parse dynamic configs: " ++ cause.message]
  | failed cause => [cause.message]

end LoadFault

/-- The parameters in a settings file. -/
def Parameters.ofToml (s : String) : Except Failure Parameters :=
  ((Toml.parse s).bind (Parameters.ofData true)).mapError (.unreadable .toml)

/-- The parameters in a file. -/
def Parameters.ofFile (t : FileTree) (path : String) : Except Failure Parameters :=
  match t.readText path with
  | .ok s => Parameters.ofToml s
  | .error e => .error (.config (.unreadableParameters path e))

namespace Sources

/-- Whether anything was given. -/
def any (s : Sources) : Bool := s != {}

/-- The parameters of the file, or the defaults without one. -/
def base (t : FileTree) (s : Sources) : Except LoadFault Parameters :=
  match s.file with
  | none => .ok {}
  | some path =>
    if t.isThere path then (Parameters.ofFile t path).mapError (.unusableFile path)
    else .error (.missingFile path)

/-- The parameters after the overrides. -/
def override (s : Sources) (p : Parameters) : Except LoadFault Parameters := do
  let m ← (Overrides.ofTexts s.overrides).mapError .badOverride
  match m.apply p with
  | (p, none) => return p
  | (_, some e) => throw (.failed e)

/-- The parameters after the flags other than the one for taints. -/
def flag (s : Sources) (p : Parameters) : Parameters :=
  { p with
    advertiseAddress := s.advertiseAddress.getD p.advertiseAddress
    controlPlaneEndpoint := s.controlPlaneEndpoint.or p.controlPlaneEndpoint
    nodeName := s.nodeName.or p.nodeName
    criSocket := s.criSocket.or p.criSocket
    cloudProvider := s.cloudProvider.or p.cloudProvider
    nodePool := s.nodePool.or p.nodePool
    networking :=
      { p.networking with
        podSubnet := s.podSubnet.or p.networking.podSubnet
        serviceSubnet := s.serviceSubnet.or p.networking.serviceSubnet } }

/-- The parameters after the flag for taints. -/
def taint (s : Sources) (p : Parameters) : Except LoadFault Parameters :=
  match s.taints with
  | none => .ok p
  | some text => ((Taint.parseList text).mapError .failed).map fun ts => { p with taints := ts }

/-- The parameters from all sources. -/
def load (t : FileTree) (s : Sources) : Except LoadFault Parameters := do
  let p ← s.base t
  let p ← s.override p
  s.taint (s.flag p)

end Sources

end NodeBootstrap
