import NodeBootstrap.Document.Basic
import NodeBootstrap.Yaml.Basic

/-!
# Laying documents out

The first generation keeps the settings of components and of joining as fields of the document
itself; the later ones group them. Fields without a value are left out, except the taints of a
node: an empty list means no taints, while no list means the default ones.

* `Generation.advertisedKey`: the field of the address that a node advertises;
* `InitDocument.tree`, `ClusterDocument.tree`, `JoinDocument.tree`, `KubeletDocument.tree`: the
  documents in the fields of a generation.
-/

namespace NodeBootstrap

open Yaml

/-- The first two fields of a document. -/
def heading (apiVersion kind : String) : List (String × Yaml) :=
  [("apiVersion", text apiVersion), ("kind", text kind)]

/-- The field of the address that a node advertises. -/
def Generation.advertisedKey (g : Generation) : String :=
  if g.flatComponents then "apiEndpoint" else "localAPIEndpoint"

/-- An address that a node advertises. -/
def Endpoint.tree (e : Endpoint) : Yaml :=
  record [("advertiseAddress", Yaml.text e.host), ("bindPort", number e.port.toNat)]

/-- A taint; an empty value is left out. -/
def Taint.tree (t : Taint) : Yaml :=
  record <| ("key", text t.key) ::
    (if t.value = "" then [] else [("value", text t.value)]) ++ [("effect", text t.effect)]

/-- How a node enters the cluster. -/
def NodeRegistration.tree (r : NodeRegistration) : Yaml :=
  record <| optionalText "name" r.name ++
    [("criSocket", text r.criSocket), ("taints", list (r.taints.map Taint.tree))] ++
    unlessEmpty "kubeletExtraArgs" r.kubeletArguments table

/-- A mount; the first generation says what may be written, the later ones what may not. -/
def Mount.tree (g : Generation) (m : Mount) : Yaml :=
  record [("name", text m.name), ("hostPath", text m.path), ("mountPath", text m.path),
    (if g.flatComponents then ("writable", flag m.writable) else ("readOnly", flag !m.writable)),
    ("pathType", text m.pathType)]

/-- Mounts. -/
def mountsTree (g : Generation) (ms : List Mount) : Yaml := list (ms.map (Mount.tree g))

/-- Where the store runs. -/
def Etcd.tree : Etcd → Yaml
  | inside dataDir => record [("local", record [("dataDir", text dataDir)])]
  | outside endpoints caFile certFile keyFile =>
    record [("external", record <| ("endpoints", texts endpoints) ::
      optionalText "caFile" caFile ++ optionalText "certFile" certFile ++
      optionalText "keyFile" keyFile)]

/-- The document that initialises the first node. -/
def InitDocument.tree (g : Generation) (d : InitDocument) : Yaml :=
  record <| heading g.apiVersion "InitConfiguration" ++
    optional "bootstrapTokens"
      (d.bootstrapToken.map fun t => list [record [("token", text t)]]) ++
    [(g.advertisedKey, d.advertised.tree), ("nodeRegistration", d.registration.tree)] ++
    optionalText "certificateKey" d.certificateKey

/-- The networks that are named. -/
def ClusterDocument.networkFields (d : ClusterDocument) : List (String × Yaml) :=
  optionalText "serviceSubnet" d.serviceSubnet ++ optionalText "podSubnet" d.podSubnet ++
    optionalText "dnsDomain" d.dnsDomain

/-- The settings of the components as fields of the document itself. -/
def ClusterDocument.flatFields (g : Generation) (d : ClusterDocument) : List (String × Yaml) :=
  unlessEmpty "apiServerCertSANs" d.certSans texts ++
    unlessEmpty "apiServerExtraArgs" d.apiServer.arguments table ++
    unlessEmpty "apiServerExtraVolumes" d.apiServer.mounts (mountsTree g) ++
    unlessEmpty "controllerManagerExtraArgs" d.controllerManager.arguments table ++
    unlessEmpty "controllerManagerExtraVolumes" d.controllerManager.mounts (mountsTree g)

/-- The settings of the components in a group for each. -/
def ClusterDocument.groupedFields (g : Generation) (d : ClusterDocument) :
    List (String × Yaml) :=
  unlessEmpty "apiServer"
      (unlessEmpty "certSANs" d.certSans texts ++
        unlessEmpty "extraArgs" d.apiServer.arguments table ++
        unlessEmpty "extraVolumes" d.apiServer.mounts (mountsTree g)) record ++
    unlessEmpty "controllerManager"
      (unlessEmpty "extraArgs" d.controllerManager.arguments table ++
        unlessEmpty "extraVolumes" d.controllerManager.mounts (mountsTree g)) record

/-- The document that all nodes share. -/
def ClusterDocument.tree (g : Generation) (d : ClusterDocument) : Yaml :=
  record <| heading g.apiVersion "ClusterConfiguration" ++
    [("kubernetesVersion", text d.version.tag)] ++
    optionalText "clusterName" d.clusterName ++
    optionalText "controlPlaneEndpoint" d.controlPlaneEndpoint ++
    optionalText "imageRepository" d.imageRepository ++
    unlessEmpty "networking" d.networkFields record ++ [("etcd", d.etcd.tree)] ++
    (if g.flatComponents then d.flatFields g else d.groupedFields g)

/-- The settings for joining as fields of the document itself. -/
def JoinDocument.flatFields (d : JoinDocument) : List (String × Yaml) :=
  [("token", text d.token), ("discoveryTokenAPIServers", texts [d.endpoint])] ++
    unlessEmpty "discoveryTokenCACertHashes" d.caCertHashes texts ++
    [("discoveryTokenUnsafeSkipCAVerification", flag d.unsafeSkipCaVerification)] ++
    match d.controlPlane with
    | some c => [("controlPlane", flag true), ("apiEndpoint", c.advertised.tree)]
    | none => []

/-- The settings for joining in groups. -/
def JoinDocument.groupedFields (d : JoinDocument) : List (String × Yaml) :=
  [("discovery", record [("bootstrapToken", record <|
      [("apiServerEndpoint", text d.endpoint), ("token", text d.token)] ++
        unlessEmpty "caCertHashes" d.caCertHashes texts ++
        [("unsafeSkipCAVerification", flag d.unsafeSkipCaVerification)])])] ++
    optional "controlPlane" (d.controlPlane.map fun c =>
      record <| ("localAPIEndpoint", c.advertised.tree) ::
        optionalText "certificateKey" c.certificateKey)

/-- The document that a further node joins with. -/
def JoinDocument.tree (g : Generation) (d : JoinDocument) : Yaml :=
  record <| heading g.apiVersion "JoinConfiguration" ++
    (if g.flatComponents then d.flatFields else d.groupedFields) ++
    [("nodeRegistration", d.registration.tree)]

/-- The document of the node agent. -/
def KubeletDocument.tree (d : KubeletDocument) : Yaml :=
  record <| heading "kubelet.config.k8s.io/v1beta1" "KubeletConfiguration" ++
    optionalText "cgroupDriver" d.cgroupDriver ++
    unlessEmpty "systemReserved" d.systemReserved table

end NodeBootstrap
