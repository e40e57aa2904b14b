import NodeBootstrap.Generation.Basic
import NodeBootstrap.Endpoint
import NodeBootstrap.Taint

/-!
# What the documents say

The content of each document, before it is laid out in the fields of a generation.

* `Arguments`: arguments of a component by name, in the order of their names;
* `Mount`, `Component`, `NodeRegistration`, `Etcd`: the parts that documents share;
* `InitDocument`, `ClusterDocument`, `JoinDocument`, `KubeletDocument`: the documents.
-/

namespace NodeBootstrap

/-- Arguments of a component by name, in the order of their names. -/
abbrev Arguments := List (String × String)

namespace Arguments

/-- The arguments with a value for a name, in place of one it may have had. -/
def insert (name value : String) : Arguments → Arguments
  | [] => [(name, value)]
  | (k, v) :: rest =>
    if name < k then (name, value) :: (k, v) :: rest
    else if name = k then (name, value) :: rest
    else (k, v) :: insert name value rest

/-- Arguments given in any order. -/
def ofList (pairs : List (String × String)) : Arguments :=
  pairs.foldl (fun m p => insert p.1 p.2 m) []

end Arguments

/-- A path of the host that a component sees under the same path. -/
structure Mount where
  name : String
  path : String
  writable : Bool
  pathType : String
deriving DecidableEq, Repr

/-- Arguments and mounts of a component of the control plane. -/
structure Component where
  arguments : Arguments := []
  mounts : List Mount := []
deriving DecidableEq, Repr

/-- How a node enters the cluster. -/
structure NodeRegistration where
  name : Option String
  criSocket : String
  taints : List Taint
  kubeletArguments : Arguments
deriving DecidableEq, Repr

/-- Where the cluster's store runs. -/
inductive Etcd where
  | inside (dataDir : String)
  | outside (endpoints : List String) (caFile certFile keyFile : Option String)
deriving DecidableEq, Repr

/-- What the first node is initialised with. -/
structure InitDocument where
  bootstrapToken : Option String
  advertised : Endpoint
  registration : NodeRegistration
  certificateKey : Option String
deriving DecidableEq, Repr

/-- What all nodes share. -/
structure ClusterDocument where
  version : Version
  clusterName : Option String
  controlPlaneEndpoint : Option String
  imageRepository : Option String
  serviceSubnet : Option String
  podSubnet : Option String
  dnsDomain : Option String
  etcd : Etcd
  certSans : List String
  apiServer : Component
  controllerManager : Component
deriving DecidableEq, Repr

/-- What a node of the control plane needs beyond what every joining node needs. -/
structure JoinControlPlane where
  advertised : Endpoint
  certificateKey : Option String
deriving DecidableEq, Repr

/-- What a further node joins with. -/
structure JoinDocument where
  endpoint : String
  token : String
  caCertHashes : List String
  unsafeSkipCaVerification : Bool
  controlPlane : Option JoinControlPlane
  registration : NodeRegistration
deriving DecidableEq, Repr

/-- Settings of the node agent. -/
structure KubeletDocument where
  cgroupDriver : Option String
  systemReserved : Arguments
deriving DecidableEq, Repr

end NodeBootstrap
