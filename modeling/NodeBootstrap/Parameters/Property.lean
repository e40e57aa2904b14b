import NodeBootstrap.Parameters.Basic

/-!
# Properties

Every parameter but the composite ones has a dotted key under which a single `key=value` text
can set it.

* `Property`: the parameters that have a key, and `Property.key`;
* `PropertyKind`: what a value of a property is, and `PropertyKind.decode`, which reads one;
* `Property.get`, `Property.set`: the field that a property stands for.
-/

namespace NodeBootstrap

/-- A parameter with a key of its own. -/
inductive Property where
  | advertiseAddress
  | controlPlaneEndpoint
  | clusterName
  | nodeName
  | criSocket
  | nodePool
  | taints
  | serviceSubnet
  | podSubnet
  | dnsDomain
  | cloudProvider
  | imageRepository
  | certSans
  | oidcIssuerUrl
  | oidcClientId
  | kubeletCertificateAuthority
  | enableAdmissionPlugins
  | disableAdmissionPlugins
  | auditLogDir
  | encryptionProviderConfig
  | signingCertFile
  | signingKeyFile
  | reservedCpu
  | reservedMemory
  | cgroupDriver
  | etcdEndpoints
  | etcdCaFile
  | etcdCertFile
  | etcdKeyFile
  | etcdDataDir
  | bootstrapToken
  | certificateKey
  | joinEndpoint
  | joinToken
  | caCertHashes
  | unsafeSkipCaVerification
  | controlPlane
deriving DecidableEq, Repr

/-- What a property holds. -/
inductive PropertyKind where
  | plain
  | text
  | list
  | taints
  | flag
deriving DecidableEq, Repr

namespace PropertyKind

/-- The type of the values of a kind. -/
def Value : PropertyKind → Type
  | plain => String
  | text => Option String
  | list => List String
  | taints => List Taint
  | flag => Bool

/-- Reads `true` or `false`. -/
def readFlag? : String → Option Bool
  | "true" => some true
  | "false" => some false
  | _ => none

/-- Reads a value, trimmed beforehand, for the property with the given key. -/
def decode (key value : String) : (kind : PropertyKind) → Except Failure kind.Value
  | plain => .ok value
  | text => .ok (some value)
  | list => .ok (Text.listed value)
  | taints => Taint.parseList value
  | flag =>
    match readFlag? value with
    | some b => .ok b
    | none => .error (.config (.notBoolean key value))

end PropertyKind

namespace Property

/-- Every property. -/
def all : List Property :=
  [advertiseAddress, controlPlaneEndpoint, clusterName, nodeName, criSocket, nodePool, taints,
   serviceSubnet, podSubnet, dnsDomain, cloudProvider, imageRepository, certSans, oidcIssuerUrl,
   oidcClientId, kubeletCertificateAuthority, enableAdmissionPlugins, disableAdmissionPlugins,
   auditLogDir, encryptionProviderConfig, signingCertFile, signingKeyFile, reservedCpu,
   reservedMemory, cgroupDriver, etcdEndpoints, etcdCaFile, etcdCertFile, etcdKeyFile,
   etcdDataDir, bootstrapToken, certificateKey, joinEndpoint, joinToken, caCertHashes,
   unsafeSkipCaVerification, controlPlane]

/-- The key under which a property is set. -/
def key : Property → String
  | advertiseAddress => "api.advertise-address"
  | controlPlaneEndpoint => "api.control-plane-endpoint"
  | clusterName => "cluster.name"
  | nodeName => "node.name"
  | criSocket => "node.cri-socket"
  | nodePool => "node.pool"
  | taints => "node.taints"
  | serviceSubnet => "networking.service-subnet"
  | podSubnet => "networking.pod-subnet"
  | dnsDomain => "networking.dns-domain"
  | cloudProvider => "cloud.provider"
  | imageRepository => "images.repository"
  | certSans => "apiserver.cert-sans"
  | oidcIssuerUrl => "apiserver.oidc-issuer-url"
  | oidcClientId => "apiserver.oidc-client-id"
  | kubeletCertificateAuthority => "apiserver.kubelet-certificate-authority"
  | enableAdmissionPlugins => "apiserver.enable-admission-plugins"
  | disableAdmissionPlugins => "apiserver.disable-admission-plugins"
  | auditLogDir => "apiserver.audit-log-dir"
  | encryptionProviderConfig => "apiserver.encryption-provider-config"
  | signingCertFile => "controller-manager.signing-cert-file"
  | signingKeyFile => "controller-manager.signing-key-file"
  | reservedCpu => "kubelet.reserved-cpu"
  | reservedMemory => "kubelet.reserved-memory"
  | cgroupDriver => "kubelet.cgroup-driver"
  | etcdEndpoints => "etcd.endpoints"
  | etcdCaFile => "etcd.ca-file"
  | etcdCertFile => "etcd.cert-file"
  | etcdKeyFile => "etcd.key-file"
  | etcdDataDir => "etcd.data-dir"
  | bootstrapToken => "bootstrap.token"
  | certificateKey => "bootstrap.certificate-key"
  | joinEndpoint => "join.api-server-endpoint"
  | joinToken => "join.token"
  | caCertHashes => "join.ca-cert-hashes"
  | unsafeSkipCaVerification => "join.unsafe-skip-ca-verification"
  | controlPlane => "join.control-plane"

/-- The property with a given key. -/
def ofKey? (k : String) : Option Property := all.find? fun p => p.key == k

/-- What the values of a property are. -/
def kind : Property → PropertyKind
  | advertiseAddress => .plain
  | taints => .taints
  | certSans | enableAdmissionPlugins | disableAdmissionPlugins | etcdEndpoints
  | caCertHashes => .list
  | unsafeSkipCaVerification | controlPlane => .flag
  | _ => .text

/-- The type of a property's values. -/
abbrev Value (p : Property) : Type := p.kind.Value

/-- The field that a property stands for. -/
def get (p : Property) (ps : Parameters) : p.Value :=
  match p with
  | advertiseAddress => ps.advertiseAddress
  | controlPlaneEndpoint => ps.controlPlaneEndpoint
  | clusterName => ps.clusterName
  | nodeName => ps.nodeName
  | criSocket => ps.criSocket
  | nodePool => ps.nodePool
  | taints => ps.taints
  | serviceSubnet => ps.networking.serviceSubnet
  | podSubnet => ps.networking.podSubnet
  | dnsDomain => ps.networking.dnsDomain
  | cloudProvider => ps.cloudProvider
  | imageRepository => ps.imageRepository
  | certSans => ps.certSans
  | oidcIssuerUrl => ps.apiServer.oidcIssuerUrl
  | oidcClientId => ps.apiServer.oidcClientId
  | kubeletCertificateAuthority => ps.apiServer.kubeletCertificateAuthority
  | enableAdmissionPlugins => ps.apiServer.enableAdmissionPlugins
  | disableAdmissionPlugins => ps.apiServer.disableAdmissionPlugins
  | auditLogDir => ps.apiServer.auditLogDir
  | encryptionProviderConfig => ps.apiServer.encryptionProviderConfig
  | signingCertFile => ps.controllerManager.signingCertFile
  | signingKeyFile => ps.controllerManager.signingKeyFile
  | reservedCpu => ps.kubelet.reservedCpu
  | reservedMemory => ps.kubelet.reservedMemory
  | cgroupDriver => ps.kubelet.cgroupDriver
  | etcdEndpoints => ps.etcd.endpoints
  | etcdCaFile => ps.etcd.caFile
  | etcdCertFile => ps.etcd.certFile
  | etcdKeyFile => ps.etcd.keyFile
  | etcdDataDir => ps.etcd.dataDir
  | bootstrapToken => ps.bootstrapToken
  | certificateKey => ps.certificateKey
  | joinEndpoint => ps.join.apiServerEndpoint
  | joinToken => ps.join.token
  | caCertHashes => ps.join.caCertHashes
  | unsafeSkipCaVerification => ps.join.unsafeSkipCaVerification
  | controlPlane => ps.join.controlPlane

/-- The parameters with another value in the field that a property stands for. -/
def set (p : Property) (v : p.Value) (ps : Parameters) : Parameters :=
  match p with
  | advertiseAddress => { ps with advertiseAddress := v }
  | controlPlaneEndpoint => { ps with controlPlaneEndpoint := v }
  | clusterName => { ps with clusterName := v }
  | nodeName => { ps with nodeName := v }
  | criSocket => { ps with criSocket := v }
  | nodePool => { ps with nodePool := v }
  | taints => { ps with taints := v }
  | serviceSubnet => { ps with networking := { ps.networking with serviceSubnet := v } }
  | podSubnet => { ps with networking := { ps.networking with podSubnet := v } }
  | dnsDomain => { ps with networking := { ps.networking with dnsDomain := v } }
  | cloudProvider => { ps with cloudProvider := v }
  | imageRepository => { ps with imageRepository := v }
  | certSans => { ps with certSans := v }
  | oidcIssuerUrl => { ps with apiServer := { ps.apiServer with oidcIssuerUrl := v } }
  | oidcClientId => { ps with apiServer := { ps.apiServer with oidcClientId := v } }
  | kubeletCertificateAuthority =>
    { ps with apiServer := { ps.apiServer with kubeletCertificateAuthority := v } }
  | enableAdmissionPlugins =>
    { ps with apiServer := { ps.apiServer with enableAdmissionPlugins := v } }
  | disableAdmissionPlugins =>
    { ps with apiServer := { ps.apiServer with disableAdmissionPlugins := v } }
  | auditLogDir => { ps with apiServer := { ps.apiServer with auditLogDir := v } }
  | encryptionProviderConfig =>
    { ps with apiServer := { ps.apiServer with encryptionProviderConfig := v } }
  | signingCertFile =>
    { ps with controllerManager := { ps.controllerManager with signingCertFile := v } }
  | signingKeyFile =>
    { ps with controllerManager := { ps.controllerManager with signingKeyFile := v } }
  | reservedCpu => { ps with kubelet := { ps.kubelet with reservedCpu := v } }
  | reservedMemory => { ps with kubelet := { ps.kubelet with reservedMemory := v } }
  | cgroupDriver => { ps with kubelet := { ps.kubelet with cgroupDriver := v } }
  | etcdEndpoints => { ps with etcd := { ps.etcd with endpoints := v } }
  | etcdCaFile => { ps with etcd := { ps.etcd with caFile := v } }
  | etcdCertFile => { ps with etcd := { ps.etcd with certFile := v } }
  | etcdKeyFile => { ps with etcd := { ps.etcd with keyFile := v } }
  | etcdDataDir => { ps with etcd := { ps.etcd with dataDir := v } }
  | bootstrapToken => { ps with bootstrapToken := v }
  | certificateKey => { ps with certificateKey := v }
  | joinEndpoint => { ps with join := { ps.join with apiServerEndpoint := v } }
  | joinToken => { ps with join := { ps.join with token := v } }
  | caCertHashes => { ps with join := { ps.join with caCertHashes := v } }
  | unsafeSkipCaVerification =>
    { ps with join := { ps.join with unsafeSkipCaVerification := v } }
  | controlPlane => { ps with join := { ps.join with controlPlane := v } }

end Property

end NodeBootstrap
