import NodeBootstrap.Document.Basic
import NodeBootstrap.Parameters.Basic

/-!
# From parameters to documents

The content of each document for given parameters. An optional parameter of blanks only counts as
absent, everywhere in the same way.

* `Token.wellFormed`: the form of a bootstrap token;
* `Parameters.advertised`, `Parameters.sharedEndpoint`: the addresses, checked;
* `InitDocument.of`, `ClusterDocument.of`, `JoinDocument.of`, `KubeletDocument.of?`: the contents.
-/

namespace NodeBootstrap

open Text

/-! ## Tokens and addresses -/

namespace Token

/-- A character of a token. -/
def isTokenChar (c : Char) : Bool := ('a' ≤ c && c ≤ 'z') || ('0' ≤ c && c ≤ '9')

/-- Six characters, a dot, and sixteen characters. -/
def wellFormed (cs : List Char) : Bool :=
  cs.length == 23 && (cs.take 6).all isTokenChar && (cs.drop 6).head? == some '.' &&
    (cs.drop 7).all isTokenChar

/-- A token that may be absent, but not ill formed. -/
def check (field : String) (token : Option String) : Except Failure (Option String) :=
  match token with
  | none => .ok none
  | some t =>
    if wellFormed t.toList then .ok (some t) else .error (.validation (.badToken field t))

end Token

namespace Parameters

/-- The address that the node advertises. -/
def advertised (p : Parameters) : Except Failure Endpoint :=
  if trim p.advertiseAddress = "" then .error (.validation .advertiseAddressMissing)
  else Endpoint.split p.advertiseAddress Endpoint.defaultPort

/-- The written form of an address, with its port. -/
def canonical (address : String) : Except Failure String :=
  (Endpoint.split address Endpoint.defaultPort).map Endpoint.text

/-- The address that the nodes of the control plane share. -/
def sharedEndpoint (p : Parameters) : Except Failure (Option String) :=
  match nonBlank p.controlPlaneEndpoint with
  | none => .ok none
  | some e => (canonical e).map some

/-- The address at which a node joins. -/
def joinEndpoint (p : Parameters) : Except Failure String :=
  match (nonBlank p.join.apiServerEndpoint).or (nonBlank p.controlPlaneEndpoint) with
  | none => .error (.validation .joinEndpointMissing)
  | some e => canonical e

/-- The token with which a node joins. -/
def joinToken (p : Parameters) : Except Failure String := do
  match ← Token.check "join.token" (nonBlank p.join.token) with
  | some t => return t
  | none => throw (.validation .joinTokenMissing)

/-- The certificate key, in a generation that has a field for it. -/
def usableCertificateKey (p : Parameters) (g : Generation) : Option String :=
  if g.certificateKeys then nonBlank p.certificateKey else none

end Parameters

/-! ## Nodes -/

/-- The container runtime's socket for which none is given. -/
def defaultCriSocket : String := "/var/run/dockershim.sock"

/-- The container runtime's socket. -/
def Parameters.effectiveCriSocket (p : Parameters) : String :=
  (nonBlank p.criSocket).getD defaultCriSocket

/-- An argument that is there only when there is a value. -/
def argument (name : String) (value : Option String) : List (String × String) :=
  match value with
  | some v => [(name, v)]
  | none => []

/-- How the node enters the cluster. -/
def NodeRegistration.of (p : Parameters) : NodeRegistration where
  name := nonBlank p.nodeName
  criSocket := p.effectiveCriSocket
  taints := p.taints
  kubeletArguments := Arguments.ofList <|
    argument "cloud-provider" p.provider ++
      argument "node-labels" ((nonBlank p.nodePool).map fun pool => "node-pool=" ++ pool)

/-- The content of the document that initialises the first node. -/
def InitDocument.of (g : Generation) (p : Parameters) : Except Failure InitDocument := do
  let advertised ← p.advertised
  let token ← Token.check "bootstrap_token" (nonBlank p.bootstrapToken)
  return ⟨token, advertised, NodeRegistration.of p, p.usableCertificateKey g⟩

/-! ## The control plane -/

namespace HostPath

/-- The settings of a recognised cloud provider. -/
def cloudConfig : String := "/etc/kubernetes/cloud.conf"

/-- The rules of what is written to the audit log. -/
def auditPolicy : String := "/etc/kubernetes/audit-policy.yaml"

/-- The store's data for which no directory is given. -/
def etcdData : String := "/var/lib/etcd"

end HostPath

/-- The cloud providers that come with a settings file. -/
def recognizedProviders : List String := ["aws", "azure", "gce", "openstack", "vsphere"]

/-- A file that a component reads. -/
def fileMount (name path : String) : Mount := ⟨name, path, false, "File"⟩

/-- What every component is told of the cloud provider. -/
def Component.ofProvider (provider : Option String) : Component :=
  match provider with
  | none => {}
  | some name =>
    if recognizedProviders.contains name then
      ⟨[("cloud-provider", name), ("cloud-config", HostPath.cloudConfig)],
        [fileMount "cloud-config" HostPath.cloudConfig]⟩
    else ⟨[("cloud-provider", name)], []⟩

/-- An argument that names all of some values, when there are any. -/
def listArgument (name : String) (values : List String) : List (String × String) :=
  match values with
  | [] => []
  | _ :: _ => [(name, glue "," values)]

/-- A directory without the slashes after it. -/
def withoutSlashes (dir : String) : String :=
  String.ofList (dir.toList.reverse.dropWhile (· == '/')).reverse

/-- The settings that keep an audit log in a directory. -/
def Component.ofAuditLog (dir : Option String) : Component :=
  match dir with
  | none => {}
  | some d =>
    let d := withoutSlashes d
    ⟨[("audit-log-path", d ++ "/audit.log"), ("audit-policy-file", HostPath.auditPolicy),
      ("audit-log-maxage", "30"), ("audit-log-maxbackup", "10"), ("audit-log-maxsize", "100")],
      [⟨"audit-log", d, true, "DirectoryOrCreate"⟩,
        fileMount "audit-policy" HostPath.auditPolicy]⟩

/-- The settings that encrypt what is stored. -/
def Component.ofEncryption (flag : String) (path : Option String) : Component :=
  match path with
  | none => {}
  | some p => ⟨[(flag, p)], [fileMount "encryption-config" p]⟩

/-- The settings of several purposes together. -/
def Component.together (parts : List Component) : Component :=
  ⟨Arguments.ofList (parts.flatMap (·.arguments)), parts.flatMap (·.mounts)⟩

/-- The settings of the API server. -/
def Component.apiServer (s : Selection) (p : Parameters) : Component :=
  together
    [ofProvider p.provider,
     { arguments :=
        argument "oidc-issuer-url" (nonBlank p.apiServer.oidcIssuerUrl) ++
          argument "oidc-client-id" (nonBlank p.apiServer.oidcClientId) ++
          argument "kubelet-certificate-authority"
            (nonBlank p.apiServer.kubeletCertificateAuthority) ++
          listArgument "enable-admission-plugins" p.apiServer.enableAdmissionPlugins ++
          listArgument "disable-admission-plugins" p.apiServer.disableAdmissionPlugins },
     ofAuditLog (nonBlank p.apiServer.auditLogDir),
     ofEncryption s.encryptionFlag (nonBlank p.apiServer.encryptionProviderConfig)]

/-- The settings of the controller manager. -/
def Component.controllerManager (p : Parameters) : Component :=
  together
    [ofProvider p.provider,
     { arguments :=
        argument "cluster-signing-cert-file" (nonBlank p.controllerManager.signingCertFile) ++
          argument "cluster-signing-key-file" (nonBlank p.controllerManager.signingKeyFile) }]

/-- Where the store runs. -/
def Etcd.of (e : EtcdParameters) : Etcd :=
  if e.isExternal then
    outside e.endpoints (nonBlank e.caFile) (nonBlank e.certFile) (nonBlank e.keyFile)
  else inside ((nonBlank e.dataDir).getD HostPath.etcdData)

/-- The content of the document that all nodes share. -/
def ClusterDocument.of (s : Selection) (p : Parameters) : Except Failure ClusterDocument := do
  let endpoint ← p.sharedEndpoint
  return {
    version := s.version
    clusterName := nonBlank p.clusterName
    controlPlaneEndpoint := endpoint
    imageRepository := nonBlank p.imageRepository
    serviceSubnet := nonBlank p.networking.serviceSubnet
    podSubnet := nonBlank p.networking.podSubnet
    dnsDomain := nonBlank p.networking.dnsDomain
    etcd := Etcd.of p.etcd
    certSans := p.certSans
    apiServer := Component.apiServer s p
    controllerManager := Component.controllerManager p }

/-! ## Joining and the node agent -/

/-- What a joining node of the control plane needs, when it is to be one. -/
def JoinControlPlane.of? (g : Generation) (p : Parameters) :
    Except Failure (Option JoinControlPlane) :=
  if p.join.controlPlane then
    p.advertised.map fun e => some ⟨e, p.usableCertificateKey g⟩
  else .ok none

/-- The content of the document that a further node joins with. -/
def JoinDocument.of (g : Generation) (p : Parameters) : Except Failure JoinDocument := do
  let endpoint ← p.joinEndpoint
  let token ← p.joinToken
  let controlPlane ← JoinControlPlane.of? g p
  return {
    endpoint := endpoint
    token := token
    caCertHashes := p.join.caCertHashes
    unsafeSkipCaVerification := p.join.unsafeSkipCaVerification
    controlPlane := controlPlane
    registration := NodeRegistration.of p }

/-- The content of the node agent's document, when it says anything. -/
def KubeletDocument.of? (p : Parameters) : Option KubeletDocument :=
  let reserved := Arguments.ofList <|
    argument "cpu" (nonBlank p.kubelet.reservedCpu) ++
      argument "memory" (nonBlank p.kubelet.reservedMemory)
  let driver := nonBlank p.kubelet.cgroupDriver
  if reserved.isEmpty && driver.isNone then none else some ⟨driver, reserved⟩

end NodeBootstrap
