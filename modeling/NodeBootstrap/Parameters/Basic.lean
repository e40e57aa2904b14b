import NodeBootstrap.Taint

/-!
# Parameters

What the documents of a cluster are rendered from. Every field has a default, so a source may
give as few of them as it likes.

* `Parameters`: all settings of one invocation, with a record for each group;
* `EtcdParameters.isExternal`: the store runs elsewhere exactly when endpoints are given;
* `Parameters.provider`: the cloud provider, when one is named.
-/

namespace NodeBootstrap

/-- The cluster's networks. -/
structure NetworkingParameters where
  serviceSubnet : Option String := none
  podSubnet : Option String := none
  dnsDomain : Option String := none
deriving DecidableEq, Repr, Inhabited

/-- Settings of the API server. -/
structure ApiServerParameters where
  oidcIssuerUrl : Option String := none
  oidcClientId : Option String := none
  kubeletCertificateAuthority : Option String := none
  enableAdmissionPlugins : List String := []
  disableAdmissionPlugins : List String := []
  auditLogDir : Option String := none
  encryptionProviderConfig : Option String := none
deriving DecidableEq, Repr, Inhabited

/-- Settings of the controller manager. -/
structure ControllerManagerParameters where
  signingCertFile : Option String := none
  signingKeyFile : Option String := none
deriving DecidableEq, Repr, Inhabited

/-- Settings of the node agent. -/
structure KubeletParameters where
  reservedCpu : Option String := none
  reservedMemory : Option String := none
  cgroupDriver : Option String := none
deriving DecidableEq, Repr, Inhabited

/-- Settings of the cluster's store. -/
structure EtcdParameters where
  endpoints : List String := []
  caFile : Option String := none
  certFile : Option String := none
  keyFile : Option String := none
  dataDir : Option String := none
deriving DecidableEq, Repr, Inhabited

/-- The store runs outside the cluster exactly when endpoints are given. -/
def EtcdParameters.isExternal (e : EtcdParameters) : Bool := !e.endpoints.isEmpty

/-- Settings for joining a cluster. -/
structure JoinParameters where
  apiServerEndpoint : Option String := none
  token : Option String := none
  caCertHashes : List String := []
  unsafeSkipCaVerification : Bool := false
  controlPlane : Bool := false
deriving DecidableEq, Repr, Inhabited

/-- All settings of one invocation. -/
structure Parameters where
  advertiseAddress : String := ""
  controlPlaneEndpoint : Option String := none
  clusterName : Option String := none
  nodeName : Option String := none
  criSocket : Option String := none
  networking : NetworkingParameters := {}
  cloudProvider : Option String := none
  nodePool : Option String := none
  imageRepository : Option String := none
  certSans : List String := []
  taints : List Taint := []
  apiServer : ApiServerParameters := {}
  controllerManager : ControllerManagerParameters := {}
  kubelet : KubeletParameters := {}
  etcd : EtcdParameters := {}
  bootstrapToken : Option String := none
  certificateKey : Option String := none
  join : JoinParameters := {}
deriving DecidableEq, Repr, Inhabited

/-- The cloud provider, when one is named. -/
def Parameters.provider (p : Parameters) : Option String := Text.nonBlank p.cloudProvider

end NodeBootstrap
