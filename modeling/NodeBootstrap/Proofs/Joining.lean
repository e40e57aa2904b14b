import NodeBootstrap.Node.Basic
import NodeBootstrap.Proofs.Documents

/-!
# What joining depends on

The configuration of a further node goes to a machine that may be no more than a worker, so it must
not tell of the settings of the cluster. Two runs whose settings agree as far as joining reads them
have the same result, whatever the other settings are.

* `Parameters.AgreeForJoining`: parameters that joining cannot tell apart;
* `JoinDocument.of_congr`, `KubeletDocument.of?_congr`: neither can the documents that joining has;
* `Rendering.join_congr`, `Rendering.init_join`: nor the configuration, while the one of a first
  node does not read the settings for joining;
* **`Node.joinRendering_congr`**: what the configuration of a further node depends on.
-/

namespace NodeBootstrap

open Text

/-- Parameters that agree in what the configuration of a further node is made of. The endpoint of
the control plane stands in for one to join at, and only a node of the control plane has an address
and a certificate key. -/
structure Parameters.AgreeForJoining (g : Generation) (p q : Parameters) : Prop where
  join : p.join = q.join
  nodeName : p.nodeName = q.nodeName
  criSocket : p.criSocket = q.criSocket
  nodePool : p.nodePool = q.nodePool
  cloudProvider : p.cloudProvider = q.cloudProvider
  taints : p.taints = q.taints
  kubelet : p.kubelet = q.kubelet
  controlPlaneEndpoint : nonBlank p.join.apiServerEndpoint = none →
    p.controlPlaneEndpoint = q.controlPlaneEndpoint
  advertiseAddress : p.join.controlPlane = true → p.advertiseAddress = q.advertiseAddress
  certificateKey : p.join.controlPlane = true → g.certificateKeys = true →
    p.certificateKey = q.certificateKey

section Congruence

variable {g : Generation} {p q : Parameters}

/-! ## The parts of a configuration -/

theorem NodeRegistration.of_congr (h : p.AgreeForJoining g q) : of p = of q := by
  simp only [of, Parameters.effectiveCriSocket, Parameters.provider, h.nodeName, h.criSocket,
    h.nodePool, h.cloudProvider, h.taints]

theorem KubeletDocument.of?_congr (h : p.AgreeForJoining g q) : of? p = of? q := by
  simp only [of?, h.kubelet]

namespace Parameters

theorem joinEndpoint_congr (h : p.AgreeForJoining g q) : p.joinEndpoint = q.joinEndpoint := by
  unfold joinEndpoint
  rw [← h.join]
  rcases hblank : nonBlank p.join.apiServerEndpoint with _ | endpoint
  · rw [h.controlPlaneEndpoint hblank]
  · rfl

theorem joinToken_congr (h : p.AgreeForJoining g q) : p.joinToken = q.joinToken := by
  rw [joinToken, joinToken, h.join]

theorem usableCertificateKey_congr (h : p.AgreeForJoining g q) (hcontrol : p.join.controlPlane) :
    p.usableCertificateKey g = q.usableCertificateKey g := by
  unfold usableCertificateKey
  split
  next hkeys => rw [h.certificateKey hcontrol hkeys]
  next => rfl

end Parameters

theorem JoinControlPlane.of?_congr (h : p.AgreeForJoining g q) : of? g p = of? g q := by
  unfold of?
  rw [← h.join]
  split
  next hcontrol =>
    rw [p.usableCertificateKey_congr h hcontrol, Parameters.advertised, Parameters.advertised,
      h.advertiseAddress hcontrol]
  next => rfl

theorem JoinDocument.of_congr (h : p.AgreeForJoining g q) : of g p = of g q := by
  rw [of, of, p.joinEndpoint_congr h, p.joinToken_congr h, JoinControlPlane.of?_congr h,
    NodeRegistration.of_congr h, h.join]

/-! ## Configurations -/

namespace Rendering

variable {s t : Selection}

/-- Of the version only its generation reaches a further node. -/
theorem join_congr (hg : s.generation = t.generation) (h : p.AgreeForJoining s.generation q) :
    join s p = join t q := by
  rw [join, join, joinTrees_eq, joinTrees_eq, agentPart, agentPart, ← hg, JoinDocument.of_congr h,
    KubeletDocument.of?_congr h]

/-- The settings for joining do not reach a first node. -/
theorem init_join (s : Selection) (p : Parameters) (j : JoinParameters) :
    init s { p with join := j } = init s p := rfl

end Rendering

end Congruence

namespace Node

/-- **The configuration of a further node depends on the settings for joining, those of the node
and those of its agent, on the endpoint of the control plane where it stands in for one to join at,
and on the address and the certificate key where the node is one of the control plane. A worker
learns nothing of the other settings. The configuration of a first node does not depend on the
settings for joining.** -/
theorem joinRendering_congr {v w : Version} {s t : Selection} (hv : Selection.of v = .ok s)
    (hw : Selection.of w = .ok t) (hg : s.generation = t.generation) :
    (∀ p q : Parameters, p.AgreeForJoining s.generation q →
      joinRendering v p = joinRendering w q) ∧
    (∀ p other : Parameters, p.join.controlPlane = false → joinRendering v p =
      joinRendering w { p with
        advertiseAddress := other.advertiseAddress
        clusterName := other.clusterName
        networking := other.networking
        imageRepository := other.imageRepository
        certSans := other.certSans
        apiServer := other.apiServer
        controllerManager := other.controllerManager
        etcd := other.etcd
        bootstrapToken := other.bootstrapToken
        certificateKey := other.certificateKey }) ∧
    ∀ (u : Version) (p : Parameters) (j : JoinParameters),
      initRendering u { p with join := j } = initRendering u p := by
  have hjoin (p q : Parameters) (h : p.AgreeForJoining s.generation q) :
      joinRendering v p = joinRendering w q := by
    rw [joinRendering, joinRendering, hv, hw]
    exact Rendering.join_congr hg h
  refine ⟨hjoin, fun p other hworker => hjoin _ _ ?_, fun u p j => ?_⟩
  · have hnot : p.join.controlPlane ≠ true := by simp [hworker]
    exact ⟨rfl, rfl, rfl, rfl, rfl, rfl, rfl, fun _ => rfl, fun h => absurd h hnot,
      fun h => absurd h hnot⟩
  · unfold initRendering
    simp only [Rendering.init_join]

/-- A worker is configured alike by two releases, one of which knows the secrets of the cluster. -/
theorem joinRendering_congr_of_worker :
    let worker : Parameters :=
      { nodeName := some "worker-1"
        join := { apiServerEndpoint := some "10.0.0.9", token := some "abcdef.0123456789abcdef" } }
    let knowing : Parameters :=
      { worker with
        advertiseAddress := "10.0.0.5"
        controlPlaneEndpoint := some "cluster.internal"
        bootstrapToken := some "fedcba.fedcba9876543210"
        certificateKey := some "0f1e2d3c"
        controllerManager := { signingKeyFile := some "/etc/kubernetes/ca.key" } }
    ∃ r, joinRendering ⟨1, 15, 0⟩ worker = .ok r ∧ joinRendering ⟨1, 18, 3⟩ knowing = .ok r := by
  intro worker knowing
  have hv : Selection.of ⟨1, 15, 0⟩ = .ok ⟨⟨1, 15, 0⟩, .v1beta2, false⟩ := rfl
  have hw : Selection.of ⟨1, 18, 3⟩ = .ok ⟨⟨1, 18, 3⟩, .v1beta2, false⟩ := rfl
  obtain ⟨r, hr⟩ : ∃ r, joinRendering ⟨1, 15, 0⟩ worker = .ok r :=
    Results.exists_eq_ok_iff.mpr (by decide +kernel)
  obtain ⟨hjoin, -, -⟩ := joinRendering_congr hv hw rfl
  have hendpoint : nonBlank worker.join.apiServerEndpoint ≠ none := by decide
  have hworker : worker.join.controlPlane ≠ true := by decide
  have hagree : worker.AgreeForJoining .v1beta2 knowing :=
    ⟨rfl, rfl, rfl, rfl, rfl, rfl, rfl, fun h => absurd h hendpoint, fun h => absurd h hworker,
      fun h => absurd h hworker⟩
  exact ⟨r, hr, (hjoin worker knowing hagree).symm.trans hr⟩

end Node

end NodeBootstrap
