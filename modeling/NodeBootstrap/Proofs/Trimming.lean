import NodeBootstrap.Document.Render
import NodeBootstrap.Proofs.Blanks

/-!
# Blanks around settings

Blanks around a setting never matter, and a setting of blanks only counts as absent.

* `Parameters.trimmed`: settings without the blanks around them and without those that are blank;
* `InitDocument.of_trimmed`, `ClusterDocument.of_trimmed`, `JoinDocument.of_trimmed`,
  `KubeletDocument.of?_trimmed`: the documents stay the same;
* **`Rendering.blanks_do_not_matter`**: so do the configurations, and the failures where there are
  none.
-/

namespace NodeBootstrap

open Text

/-! ## Trimmed settings -/

/-- The networks, trimmed. -/
def NetworkingParameters.trimmed (n : NetworkingParameters) : NetworkingParameters where
  serviceSubnet := nonBlank n.serviceSubnet
  podSubnet := nonBlank n.podSubnet
  dnsDomain := nonBlank n.dnsDomain

/-- The settings of the API server, trimmed; its lists stay as they are. -/
def ApiServerParameters.trimmed (a : ApiServerParameters) : ApiServerParameters :=
  { a with
    oidcIssuerUrl := nonBlank a.oidcIssuerUrl
    oidcClientId := nonBlank a.oidcClientId
    kubeletCertificateAuthority := nonBlank a.kubeletCertificateAuthority
    auditLogDir := nonBlank a.auditLogDir
    encryptionProviderConfig := nonBlank a.encryptionProviderConfig }

/-- The settings of the controller manager, trimmed. -/
def ControllerManagerParameters.trimmed (c : ControllerManagerParameters) :
    ControllerManagerParameters where
  signingCertFile := nonBlank c.signingCertFile
  signingKeyFile := nonBlank c.signingKeyFile

/-- The settings of the node agent, trimmed. -/
def KubeletParameters.trimmed (k : KubeletParameters) : KubeletParameters where
  reservedCpu := nonBlank k.reservedCpu
  reservedMemory := nonBlank k.reservedMemory
  cgroupDriver := nonBlank k.cgroupDriver

/-- The settings of the store, trimmed; its endpoints stay as they are. -/
def EtcdParameters.trimmed (e : EtcdParameters) : EtcdParameters :=
  { e with
    caFile := nonBlank e.caFile
    certFile := nonBlank e.certFile
    keyFile := nonBlank e.keyFile
    dataDir := nonBlank e.dataDir }

/-- The settings for joining, trimmed; the hashes stay as they are. -/
def JoinParameters.trimmed (j : JoinParameters) : JoinParameters :=
  { j with
    apiServerEndpoint := nonBlank j.apiServerEndpoint
    token := nonBlank j.token }

/-- All settings, trimmed: the advertised address without the blanks around it, and every optional
text without them or, when nothing is left, absent. -/
def Parameters.trimmed (p : Parameters) : Parameters :=
  { p with
    advertiseAddress := trim p.advertiseAddress
    controlPlaneEndpoint := nonBlank p.controlPlaneEndpoint
    clusterName := nonBlank p.clusterName
    nodeName := nonBlank p.nodeName
    criSocket := nonBlank p.criSocket
    networking := p.networking.trimmed
    cloudProvider := nonBlank p.cloudProvider
    nodePool := nonBlank p.nodePool
    imageRepository := nonBlank p.imageRepository
    apiServer := p.apiServer.trimmed
    controllerManager := p.controllerManager.trimmed
    kubelet := p.kubelet.trimmed
    etcd := p.etcd.trimmed
    bootstrapToken := nonBlank p.bootstrapToken
    certificateKey := nonBlank p.certificateKey
    join := p.join.trimmed }

/-! ## Addresses -/

theorem Endpoint.split_trim (address : String) (port : UInt16) :
    split (trim address) port = split address port := by
  rw [split, split, trim_trim]

namespace Parameters

variable (p : Parameters)

theorem advertised_trimmed : p.trimmed.advertised = p.advertised := by
  simp [advertised, trimmed, Endpoint.split_trim]

theorem sharedEndpoint_trimmed : p.trimmed.sharedEndpoint = p.sharedEndpoint := by
  simp [sharedEndpoint, trimmed]

theorem joinEndpoint_trimmed : p.trimmed.joinEndpoint = p.joinEndpoint := by
  simp [joinEndpoint, trimmed, JoinParameters.trimmed]

theorem joinToken_trimmed : p.trimmed.joinToken = p.joinToken := by
  simp [joinToken, trimmed, JoinParameters.trimmed]

theorem usableCertificateKey_trimmed (g : Generation) :
    p.trimmed.usableCertificateKey g = p.usableCertificateKey g := by
  simp [usableCertificateKey, trimmed]

end Parameters

/-! ## Documents -/

section Documents

variable (g : Generation) (s : Selection) (p : Parameters)

theorem NodeRegistration.of_trimmed : NodeRegistration.of p.trimmed = NodeRegistration.of p := by
  simp [NodeRegistration.of, Parameters.effectiveCriSocket, Parameters.provider, Parameters.trimmed]

theorem InitDocument.of_trimmed : InitDocument.of g p.trimmed = InitDocument.of g p := by
  rw [InitDocument.of, InitDocument.of, p.advertised_trimmed, p.usableCertificateKey_trimmed,
    NodeRegistration.of_trimmed]
  simp [Parameters.trimmed]

theorem Component.apiServer_trimmed :
    Component.apiServer s p.trimmed = Component.apiServer s p := by
  simp [Component.apiServer, Parameters.provider, Parameters.trimmed, ApiServerParameters.trimmed]

theorem Component.controllerManager_trimmed :
    Component.controllerManager p.trimmed = Component.controllerManager p := by
  simp [Component.controllerManager, Parameters.provider, Parameters.trimmed,
    ControllerManagerParameters.trimmed]

theorem Etcd.of_trimmed (e : EtcdParameters) : Etcd.of e.trimmed = Etcd.of e := by
  simp [Etcd.of, EtcdParameters.isExternal, EtcdParameters.trimmed]

theorem ClusterDocument.of_trimmed : ClusterDocument.of s p.trimmed = ClusterDocument.of s p := by
  rw [ClusterDocument.of, ClusterDocument.of, p.sharedEndpoint_trimmed,
    Component.apiServer_trimmed, Component.controllerManager_trimmed]
  simp [Parameters.trimmed, NetworkingParameters.trimmed, Etcd.of_trimmed]

theorem JoinControlPlane.of?_trimmed : of? g p.trimmed = of? g p := by
  rw [of?, of?, p.advertised_trimmed, p.usableCertificateKey_trimmed]
  rfl

theorem JoinDocument.of_trimmed : JoinDocument.of g p.trimmed = JoinDocument.of g p := by
  rw [JoinDocument.of, JoinDocument.of, p.joinEndpoint_trimmed, p.joinToken_trimmed,
    JoinControlPlane.of?_trimmed, NodeRegistration.of_trimmed]
  rfl

theorem KubeletDocument.of?_trimmed : of? p.trimmed = of? p := by
  simp [of?, Parameters.trimmed, KubeletParameters.trimmed]

end Documents

namespace Rendering

/-- **Blanks do not matter**: the configurations are the same, or fail alike, when blanks around
settings are dropped and blank settings are left out. -/
theorem blanks_do_not_matter (s : Selection) (p : Parameters) :
    init s p.trimmed = init s p ∧ join s p.trimmed = join s p := by
  constructor
  · rw [init, initTrees, InitDocument.of_trimmed, ClusterDocument.of_trimmed,
      KubeletDocument.of?_trimmed]
    rfl
  · rw [join, joinTrees, JoinDocument.of_trimmed, KubeletDocument.of?_trimmed]
    rfl

end Rendering

end NodeBootstrap
