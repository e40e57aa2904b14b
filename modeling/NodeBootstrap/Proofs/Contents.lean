import NodeBootstrap.Proofs.Blanks
import NodeBootstrap.Proofs.Names
import NodeBootstrap.Proofs.Results
import Mathlib.Tactic.SplitIfs

/-!
# What documents are made of

* `Component.exists_apiServer_eq`: what depends on the version among the settings of the API server;
* `Component.within_apiServer`, `Component.within_controllerManager`, …: the arguments that there
  are;
* `InitDocument.of_eq`, `ClusterDocument.of_eq`, `JoinDocument.of_eq`: what depends on the version
  in each document, and that failures do not;
* `Component.perm_apiServer`: the arguments of the API server under another name of the encryption
  flag;
* `KubeletDocument.isSome_of?_iff`: when there is a document of the node agent.
-/

namespace NodeBootstrap

/-! ## The arguments that there are -/

theorem withoutSlashes_eq_empty_iff {dir : String} :
    withoutSlashes dir = "" ↔ ∀ c ∈ dir.toList, c = '/' := by
  rw [withoutSlashes, String.ofList_eq_empty_iff, List.reverse_eq_nil_iff,
    List.dropWhile_eq_nil_iff]
  simp

namespace Component

theorem named_ofProvider (provider : Option String) :
    Named ["cloud-provider", "cloud-config"] (ofProvider provider).arguments := by
  rcases provider with _ | name
  · exact Named.none_of _
  · unfold ofProvider
    dsimp only
    split
    · exact List.Sublist.refl _
    · exact List.sublist_append_left ["cloud-provider"] ["cloud-config"]

theorem named_ofAuditLog (dir : Option String) :
    Named ["audit-log-path", "audit-policy-file", "audit-log-maxage", "audit-log-maxbackup",
      "audit-log-maxsize"] (ofAuditLog dir).arguments := by
  rcases dir with _ | d
  · exact Named.none_of _
  · exact List.Sublist.refl _

theorem named_ofEncryption (flag : String) (path : Option String) :
    Named [flag] (ofEncryption flag path).arguments := by
  rcases path with _ | p
  · exact Named.none_of _
  · exact Named.single p

/-- The settings of the API server that are arguments only. -/
theorem named_ofSettings (a : ApiServerParameters) :
    Named ["oidc-issuer-url", "oidc-client-id", "kubelet-certificate-authority",
      "enable-admission-plugins", "disable-admission-plugins"]
      (argument "oidc-issuer-url" (Text.nonBlank a.oidcIssuerUrl) ++
        argument "oidc-client-id" (Text.nonBlank a.oidcClientId) ++
        argument "kubelet-certificate-authority" (Text.nonBlank a.kubeletCertificateAuthority) ++
        listArgument "enable-admission-plugins" a.enableAdmissionPlugins ++
        listArgument "disable-admission-plugins" a.disableAdmissionPlugins) :=
  ((((named_argument _ _).append (named_argument _ _)).append (named_argument _ _)).append
    (named_listArgument _ _)).append (named_listArgument _ _)

theorem arguments_together (parts : List Component) :
    (together parts).arguments = Arguments.ofList (parts.flatMap (·.arguments)) := rfl

/-- What holds of the arguments and the mounts of all parts holds of those of the whole. -/
theorem forall_mem_together {A : String × String → Prop} {M : Mount → Prop} {parts : List Component}
    (h : ∀ part ∈ parts, (∀ a ∈ part.arguments, A a) ∧ ∀ m ∈ part.mounts, M m) :
    (∀ a ∈ (together parts).arguments, A a) ∧ ∀ m ∈ (together parts).mounts, M m := by
  constructor
  · intro a ha
    obtain ⟨part, hpart, ha⟩ := List.mem_flatMap.mp (Arguments.mem_of_mem_ofList ha)
    exact (h part hpart).1 a ha
  · intro m hm
    obtain ⟨part, hpart, hm⟩ := List.mem_flatMap.mp hm
    exact (h part hpart).2 m hm

/-- The arguments of the API server under names that all generations share. -/
def apiServerNames : List String :=
  ["cloud-provider", "cloud-config", "oidc-issuer-url", "oidc-client-id",
    "kubelet-certificate-authority", "enable-admission-plugins", "disable-admission-plugins",
    "audit-log-path", "audit-policy-file", "audit-log-maxage", "audit-log-maxbackup",
    "audit-log-maxsize"]

/-- Of the settings of the API server only the name of the encryption flag depends on the
version. -/
theorem exists_apiServer_eq (p : Parameters) : ∃ shared : List Component,
    Named apiServerNames (shared.flatMap (·.arguments)) ∧ ∀ s : Selection, apiServer s p =
      together (shared ++ [ofEncryption s.encryptionFlag
        (Text.nonBlank p.apiServer.encryptionProviderConfig)]) := by
  refine ⟨[_, _, _], ?_, fun s => rfl⟩
  simp only [List.flatMap_cons, List.flatMap_nil, List.append_nil]
  exact (named_ofProvider _).append ((named_ofSettings p.apiServer).append (named_ofAuditLog _))

theorem within_apiServer (s : Selection) (p : Parameters) :
    Arguments.Within (apiServerNames ++ [s.encryptionFlag]) (apiServer s p).arguments := by
  obtain ⟨shared, hshared, heq⟩ := exists_apiServer_eq p
  rw [heq, arguments_together, List.flatMap_append]
  refine Arguments.within_ofList (hshared.append ?_) ?_
  · rw [List.flatMap_singleton]
    exact named_ofEncryption _ _
  · unfold Selection.encryptionFlag
    split
    · decide
    · decide

theorem within_controllerManager (p : Parameters) :
    Arguments.Within ["cloud-provider", "cloud-config", "cluster-signing-cert-file",
      "cluster-signing-key-file"] (controllerManager p).arguments := by
  rw [controllerManager, arguments_together]
  simp only [List.flatMap_cons, List.flatMap_nil, List.append_nil]
  exact Arguments.within_ofList ((named_ofProvider _).append
    ((named_argument _ _).append (named_argument _ _))) (by decide)

end Component

theorem NodeRegistration.within_of (p : Parameters) :
    Arguments.Within ["cloud-provider", "node-labels"] (NodeRegistration.of p).kubeletArguments :=
  Arguments.within_ofList ((named_argument _ _).append (named_argument _ _)) (by decide)

/-! ## What depends on the version -/

section Versions

variable {g : Generation} {s : Selection} {p : Parameters}

/-- Of the content of the first document only the certificate key depends on the generation. -/
theorem InitDocument.of_eq (g g' : Generation) (p : Parameters) :
    InitDocument.of g p = (InitDocument.of g' p).map fun d =>
      { d with certificateKey := p.usableCertificateKey g } := by
  unfold InitDocument.of
  rcases p.advertised with e | advertised
  · rfl
  · rcases Token.check "bootstrap_token" (Text.nonBlank p.bootstrapToken) with e | token
    · rfl
    · rfl

/-- Of what all nodes share only the version and the settings of the API server depend on the
version. -/
theorem ClusterDocument.of_eq (a b : Selection) (p : Parameters) :
    ClusterDocument.of b p = (ClusterDocument.of a p).map fun d =>
      { d with version := b.version, apiServer := Component.apiServer b p } := by
  unfold ClusterDocument.of
  rcases p.sharedEndpoint with e | endpoint
  · rfl
  · rfl

/-- A document with another certificate key, where it has a place for one. -/
def JoinDocument.withKey (key : Option String) (d : JoinDocument) : JoinDocument :=
  { d with controlPlane := d.controlPlane.map fun c => { c with certificateKey := key } }

/-- Of what a further node joins with only the certificate key depends on the generation. -/
theorem JoinDocument.of_eq (g g' : Generation) (p : Parameters) : JoinDocument.of g p =
    (JoinDocument.of g' p).map (withKey (p.usableCertificateKey g)) := by
  unfold JoinDocument.of JoinControlPlane.of?
  rcases p.joinEndpoint with e | endpoint
  · rfl
  · rcases p.joinToken with e | token
    · rfl
    · cases p.join.controlPlane with
      | false => rfl
      | true =>
        rcases p.advertised with e | advertised
        · rfl
        · rfl

theorem InitDocument.certificateKey_of {d : InitDocument} (h : InitDocument.of g p = .ok d) :
    d.certificateKey = p.usableCertificateKey g := by
  obtain ⟨advertised, -, h⟩ := Results.bind_eq_ok_iff.mp h
  obtain ⟨token, -, h⟩ := Results.bind_eq_ok_iff.mp h
  cases h
  rfl

theorem ClusterDocument.components_of {d : ClusterDocument}
    (h : ClusterDocument.of s p = .ok d) : d.apiServer = Component.apiServer s p ∧
      d.controllerManager = Component.controllerManager p ∧ d.etcd = Etcd.of p.etcd := by
  obtain ⟨endpoint, -, h⟩ := Results.bind_eq_ok_iff.mp h
  cases h
  exact ⟨rfl, rfl, rfl⟩

theorem ClusterDocument.sharedEndpoint_of {d : ClusterDocument}
    (h : ClusterDocument.of s p = .ok d) : p.sharedEndpoint = .ok d.controlPlaneEndpoint := by
  obtain ⟨endpoint, hendpoint, h⟩ := Results.bind_eq_ok_iff.mp h
  cases h
  exact hendpoint

theorem JoinDocument.joinEndpoint_of {d : JoinDocument} (h : JoinDocument.of g p = .ok d) :
    p.joinEndpoint = .ok d.endpoint := by
  obtain ⟨endpoint, hendpoint, h⟩ := Results.bind_eq_ok_iff.mp h
  obtain ⟨token, -, h⟩ := Results.bind_eq_ok_iff.mp h
  obtain ⟨control, -, h⟩ := Results.bind_eq_ok_iff.mp h
  cases h
  exact hendpoint

theorem JoinControlPlane.of?_eq_ok_iff {control : Option JoinControlPlane} :
    of? g p = .ok control ↔ (p.join.controlPlane = false ∧ control = none) ∨
      (p.join.controlPlane = true ∧ ∃ e, p.advertised = .ok e ∧
        control = some ⟨e, p.usableCertificateKey g⟩) := by
  unfold of?
  cases p.join.controlPlane with
  | false => simp [eq_comm]
  | true =>
    rw [if_pos rfl, Results.map_eq_ok_iff]
    simp [eq_comm]

theorem JoinDocument.controlPlane_of {d : JoinDocument} (h : JoinDocument.of g p = .ok d) :
    JoinControlPlane.of? g p = .ok d.controlPlane := by
  obtain ⟨endpoint, -, h⟩ := Results.bind_eq_ok_iff.mp h
  obtain ⟨token, -, h⟩ := Results.bind_eq_ok_iff.mp h
  obtain ⟨control, hcontrol, h⟩ := Results.bind_eq_ok_iff.mp h
  cases h
  exact hcontrol

theorem JoinDocument.isSome_controlPlane_of {d : JoinDocument} (h : JoinDocument.of g p = .ok d) :
    d.controlPlane.isSome = p.join.controlPlane := by
  rcases JoinControlPlane.of?_eq_ok_iff.mp (controlPlane_of h) with ⟨hp, hc⟩ | ⟨hp, e, -, hc⟩
  · rw [hp, hc]
    rfl
  · rw [hp, hc]
    rfl

end Versions

namespace Arguments

/-- Arguments with another name for one of them. -/
def rename (old new : String) (m : Arguments) : Arguments :=
  m.map fun a => (if a.1 = old then new else a.1, a.2)

theorem rename_of_unnamed {old new : String} {m : Arguments} (h : ∀ a ∈ m, a.1 ≠ old) :
    m.rename old new = m := by
  have hsame : ∀ a ∈ m, (if a.1 = old then new else a.1, a.2) = a := fun a ha => by
    rw [if_neg (h a ha)]
  exact (List.map_congr_left hsame).trans (List.map_id' m)

end Arguments

namespace Component

theorem rename_ofEncryption (old new : String) (path : Option String) :
    Arguments.rename old new (ofEncryption old path).arguments =
      (ofEncryption new path).arguments := by
  rcases path with _ | path
  · rfl
  · simp [Arguments.rename, ofEncryption]

/-- The arguments of the API server under the shorter name of the encryption flag. -/
theorem perm_apiServer {a b : Selection}
    (ha : a.encryptionFlag = "experimental-encryption-provider-config")
    (hb : b.encryptionFlag = "encryption-provider-config") (p : Parameters) :
    ((apiServer a p).arguments.rename "experimental-encryption-provider-config"
      "encryption-provider-config").Perm (apiServer b p).arguments := by
  obtain ⟨shared, hshared, heq⟩ := exists_apiServer_eq p
  have hpairs (s : Selection) (hs : (apiServerNames ++ [s.encryptionFlag]).Nodup) :
      (apiServer s p).arguments.Perm (shared.flatMap (·.arguments) ++
        (ofEncryption s.encryptionFlag
          (Text.nonBlank p.apiServer.encryptionProviderConfig)).arguments) := by
    rw [heq, arguments_together, List.flatMap_append, List.flatMap_singleton]
    exact Arguments.perm_ofList ((hshared.append (named_ofEncryption _ _)).nodup hs)
  have hold := hpairs a (by rw [ha]; decide)
  have hnew := hpairs b (by rw [hb]; decide)
  have hunnamed : ∀ arg ∈ shared.flatMap (·.arguments),
      arg.1 ≠ "experimental-encryption-provider-config" := fun arg harg heq => by
    have hmem := hshared.mem harg
    rw [heq] at hmem
    exact absurd hmem (by decide)
  refine (hold.map _).trans (List.Perm.trans (List.Perm.of_eq ?_) hnew.symm)
  rw [ha, hb, List.map_append]
  exact congrArg₂ (· ++ ·) (Arguments.rename_of_unnamed hunnamed) (rename_ofEncryption _ _ _)

/-- The mounts of the API server do not depend on the version. -/
theorem mounts_apiServer (a b : Selection) (p : Parameters) :
    (apiServer a p).mounts = (apiServer b p).mounts := by
  rcases hpath : Text.nonBlank p.apiServer.encryptionProviderConfig with _ | path
  · simp [apiServer, together, hpath, ofEncryption]
  · simp [apiServer, together, hpath, ofEncryption]

end Component

/-! ## Groups of fields -/

namespace JoinDocument

open Yaml

/-- The fields with which a node is discovered, in a group of their own. -/
def discoveryFields (d : JoinDocument) : List (String × Yaml) :=
  [("apiServerEndpoint", text d.endpoint), ("token", text d.token)] ++
    unlessEmpty "caCertHashes" d.caCertHashes texts ++
    [("unsafeSkipCAVerification", flag d.unsafeSkipCaVerification)]

/-- The fields with which a node is discovered, in the document itself. -/
def flatDiscoveryFields (d : JoinDocument) : List (String × Yaml) :=
  [("token", text d.token), ("discoveryTokenAPIServers", texts [d.endpoint])] ++
    unlessEmpty "discoveryTokenCACertHashes" d.caCertHashes texts ++
    [("discoveryTokenUnsafeSkipCAVerification", flag d.unsafeSkipCaVerification)]

/-- The fields of a node of the control plane, in the document itself. -/
def flatControlFields (d : JoinDocument) : List (String × Yaml) :=
  match d.controlPlane with
  | some c => [("controlPlane", flag true), ("apiEndpoint", c.advertised.tree)]
  | none => []

/-- The fields of a node of the control plane, in a group of their own. -/
def controlFields (d : JoinDocument) : List (String × Yaml) :=
  optional "controlPlane" (d.controlPlane.map fun c =>
    record <| ("localAPIEndpoint", c.advertised.tree) ::
      optionalText "certificateKey" c.certificateKey)

theorem flatFields_eq (d : JoinDocument) :
    d.flatFields = d.flatDiscoveryFields ++ d.flatControlFields := rfl

theorem groupedFields_eq (d : JoinDocument) : d.groupedFields =
    [("discovery", record [("bootstrapToken", record d.discoveryFields)])] ++ d.controlFields := rfl

end JoinDocument

/-! ## The node agent -/

/-- Something is said of the node agent. -/
def KubeletParameters.Given (k : KubeletParameters) : Prop :=
  ∃ s, (k.reservedCpu = some s ∨ k.reservedMemory = some s ∨ k.cgroupDriver = some s) ∧
    Text.blank s = false

namespace KubeletDocument

/-- What is set aside for the system. -/
def reserved (k : KubeletParameters) : List (String × String) :=
  argument "cpu" (Text.nonBlank k.reservedCpu) ++
    argument "memory" (Text.nonBlank k.reservedMemory)

theorem perm_reserved (k : KubeletParameters) :
    (Arguments.ofList (reserved k)).Perm (reserved k) :=
  Arguments.perm_ofList <|
    ((named_argument "cpu" _).append (named_argument "memory" _)).nodup (by decide)

theorem reserved_ne_nil_iff (k : KubeletParameters) : reserved k ≠ [] ↔
    Text.nonBlank k.reservedCpu ≠ none ∨ Text.nonBlank k.reservedMemory ≠ none := by
  unfold reserved
  rcases Text.nonBlank k.reservedCpu with _ | cpu
  · rcases Text.nonBlank k.reservedMemory with _ | memory
    · simp [argument]
    · simp [argument]
  · simp [argument]

theorem of?_eq_some_iff {p : Parameters} {d : KubeletDocument} : of? p = some d ↔
    (reserved p.kubelet ≠ [] ∨ Text.nonBlank p.kubelet.cgroupDriver ≠ none) ∧
      d = ⟨Text.nonBlank p.kubelet.cgroupDriver, Arguments.ofList (reserved p.kubelet)⟩ := by
  have hempty : Arguments.ofList (reserved p.kubelet) = [] ↔ reserved p.kubelet = [] :=
    ⟨fun h => List.perm_nil.mp (h ▸ (perm_reserved p.kubelet).symm),
      fun h => List.perm_nil.mp (h ▸ perm_reserved p.kubelet)⟩
  change (if List.isEmpty (Arguments.ofList (reserved p.kubelet)) &&
    (Text.nonBlank p.kubelet.cgroupDriver).isNone then none else some _) = some d ↔ _
  simp only [Bool.and_eq_true, List.isEmpty_iff, hempty, Option.isNone_iff_eq_none]
  split_ifs with h
  · simp [h.1, h.2]
  · rw [Option.some.injEq, eq_comm]
    exact ⟨fun hd => ⟨not_and_or.mp h, hd⟩, And.right⟩

/-- There is a document of the node agent exactly when something is said of it. -/
theorem isSome_of?_iff (p : Parameters) : (of? p).isSome = true ↔ p.kubelet.Given := by
  have hsome : (∃ d, of? p = some d) ↔
      reserved p.kubelet ≠ [] ∨ Text.nonBlank p.kubelet.cgroupDriver ≠ none := by
    simp only [of?_eq_some_iff, exists_and_left, exists_eq, and_true]
  rw [Option.isSome_iff_exists, hsome, reserved_ne_nil_iff]
  simp only [Text.nonBlank_ne_none_iff, KubeletParameters.Given, or_and_right, exists_or, or_assoc]

theorem within_of {p : Parameters} {d : KubeletDocument} (h : of? p = some d) :
    Arguments.Within ["cpu", "memory"] d.systemReserved := by
  obtain ⟨-, rfl⟩ := of?_eq_some_iff.mp h
  exact Arguments.within_ofList ((named_argument _ _).append (named_argument _ _)) (by decide)

end KubeletDocument

end NodeBootstrap
