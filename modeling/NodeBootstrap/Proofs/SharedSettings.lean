import NodeBootstrap.Addon.Render
import NodeBootstrap.Node.Basic
import NodeBootstrap.Proofs.Blanks
import NodeBootstrap.Proofs.Conformance
import NodeBootstrap.Proofs.Lookups
import NodeBootstrap.Proofs.Moves

/-!
# Settings that templates and documents share

Some settings of a cluster go into its document and are told to the templates of its add-ons. Both
take a setting of blanks only as absent, but the document leaves out the blanks around a text, and
templates are told them, except those around the cloud provider.

* `SharedSetting`: the settings, with their names in templates and their places in the document;
* `SharedSetting.at?_path`: what the document has of a setting;
* `SharedSetting.told_of_blank`, `SharedSetting.told_of_text`: what templates are told of it;
* `SharedSetting.Agrees`, `SharedSetting.agrees_iff`: when the two are the same;
* **`SharedSetting.agreement_of_rendering`**: the settings of a rendered configuration;
* **`SharedSetting.clusterName_disagrees`**: a name that the two have differently.
-/

namespace NodeBootstrap

open Text

/-- A setting that goes into the cluster document and is told to templates. -/
inductive SharedSetting where
  | clusterName
  | podSubnet
  | serviceSubnet
  | dnsDomain
  | imageRepository
  | cloudProvider
deriving DecidableEq, Repr

namespace SharedSetting

/-- The name of a setting in templates. -/
def name : SharedSetting → String
  | clusterName => "cluster_name"
  | podSubnet => "pod_subnet"
  | serviceSubnet => "service_subnet"
  | dnsDomain => "dns_domain"
  | imageRepository => "image_repository"
  | cloudProvider => "cloud_provider"

/-- What templates are told when a setting is absent. -/
def fallback : SharedSetting → String
  | clusterName => Addon.defaultClusterName
  | serviceSubnet => Addon.defaultServiceSubnet
  | dnsDomain => Addon.defaultDnsDomain
  | podSubnet | imageRepository | cloudProvider => ""

/-- Where a setting stands in the cluster document of a generation. -/
def path (g : Generation) : SharedSetting → List String
  | clusterName => ["clusterName"]
  | podSubnet => ["networking", "podSubnet"]
  | serviceSubnet => ["networking", "serviceSubnet"]
  | dnsDomain => ["networking", "dnsDomain"]
  | imageRepository => ["imageRepository"]
  | cloudProvider => g.apiServerArguments ++ ["cloud-provider"]

/-- A setting as it is given. -/
def given (p : Parameters) : SharedSetting → Option String
  | clusterName => p.clusterName
  | podSubnet => p.networking.podSubnet
  | serviceSubnet => p.networking.serviceSubnet
  | dnsDomain => p.networking.dnsDomain
  | imageRepository => p.imageRepository
  | cloudProvider => p.cloudProvider

/-- What templates are told of a setting. -/
def told (v : Version) (p : Parameters) (q : SharedSetting) : Template.Value :=
  Template.Scopes.find [Addon.values v p] q.name

section

variable {v : Version} {p : Parameters} {s : Selection} {d : ClusterDocument}

/-! ## In the document -/

/-- The arguments of the API server other than those for the cloud provider. -/
def furtherArguments (s : Selection) (p : Parameters) : List (String × String) :=
  argument "oidc-issuer-url" (nonBlank p.apiServer.oidcIssuerUrl) ++
    argument "oidc-client-id" (nonBlank p.apiServer.oidcClientId) ++
    argument "kubelet-certificate-authority"
      (nonBlank p.apiServer.kubeletCertificateAuthority) ++
    listArgument "enable-admission-plugins" p.apiServer.enableAdmissionPlugins ++
    listArgument "disable-admission-plugins" p.apiServer.disableAdmissionPlugins ++
    (Component.ofAuditLog (nonBlank p.apiServer.auditLogDir)).arguments ++
    (Component.ofEncryption s.encryptionFlag
      (nonBlank p.apiServer.encryptionProviderConfig)).arguments

theorem not_mem_furtherArguments (s : Selection) (p : Parameters) :
    "cloud-provider" ∉ (furtherArguments s p).map (·.1) := by
  have hnamed : Named (["oidc-issuer-url", "oidc-client-id", "kubelet-certificate-authority",
      "enable-admission-plugins", "disable-admission-plugins", "audit-log-path",
      "audit-policy-file", "audit-log-maxage", "audit-log-maxbackup", "audit-log-maxsize"] ++
      [s.encryptionFlag]) (furtherArguments s p) :=
    ((((((named_argument _ _).append (named_argument _ _)).append (named_argument _ _)).append
      (named_listArgument _ _)).append (named_listArgument _ _)).append
      (Component.named_ofAuditLog _)).append (Component.named_ofEncryption _ _)
  intro hmem
  have hin := hnamed.subset hmem
  unfold Selection.encryptionFlag at hin
  split at hin
  · exact absurd hin (by decide)
  · exact absurd hin (by decide)

/-- The arguments of the API server name the cloud provider. -/
theorem field?_cloudProvider (s : Selection) (p : Parameters) :
    (Yaml.table (Component.apiServer s p).arguments).field? "cloud-provider" =
      p.provider.map .text := by
  have heq : (Component.apiServer s p).arguments = Arguments.ofList
      ((Component.ofProvider p.provider).arguments ++ furtherArguments s p) := by
    simp [Component.apiServer, Component.together, furtherArguments]
  rw [heq, Arguments.field?_ofList_append (not_mem_furtherArguments s p)]
  rcases p.provider with _ | name
  · rfl
  · unfold Component.ofProvider
    dsimp only
    split
    · simp [Arguments.ofList, Arguments.field?_insert]
    · simp [Arguments.ofList, Arguments.field?_insert]

/-- The document has a setting without the blanks around it, if anything else is in it. -/
theorem at?_path (h : ClusterDocument.of s p = .ok d) (g : Generation) (q : SharedSetting) :
    (d.tree g).at? (q.path g) = (nonBlank (q.given p)).map .text := by
  obtain ⟨endpoint, -, h⟩ := Results.bind_eq_ok_iff.mp h
  cases h
  cases q with
  | clusterName => exact (Yaml.at?_singleton _ _).trans (ClusterDocument.field?_clusterName g _)
  | imageRepository =>
    exact (Yaml.at?_singleton _ _).trans (ClusterDocument.field?_imageRepository g _)
  | cloudProvider =>
    exact (ClusterDocument.at?_argument g _ _).trans (field?_cloudProvider s p)
  | podSubnet =>
    refine (ClusterDocument.at?_network g _ _).trans ?_
    simp [ClusterDocument.networkFields, given]
  | serviceSubnet =>
    refine (ClusterDocument.at?_network g _ _).trans ?_
    simp [ClusterDocument.networkFields, given]
  | dnsDomain =>
    refine (ClusterDocument.at?_network g _ _).trans ?_
    simp [ClusterDocument.networkFields, given]

/-! ## In templates -/

theorem setting_of_blank {o : Option String} (h : nonBlank o = none) (default : String) :
    Addon.setting o default = default := by
  rcases o with _ | t
  · rfl
  · rw [nonBlank_some] at h
    split at h
    next hblank => simp [Addon.setting, Option.filter, hblank]
    next => cases h

theorem setting_of_text {t : String} (h : blank t = false) (default : String) :
    Addon.setting (some t) default = t := by
  simp [Addon.setting, Option.filter, h]

/-- A setting as templates are told it: as it is written, but the cloud provider without the blanks
around it. -/
def wording (t : String) : SharedSetting → String
  | cloudProvider => trim t
  | _ => t

theorem told_of_blank (v : Version) {q : SharedSetting} (h : nonBlank (q.given p) = none) :
    q.told v p = .plain q.fallback := by
  cases q with
  | cloudProvider => exact congrArg (fun o => Template.Value.plain (o.getD "")) h
  | _ => exact congrArg Template.Value.plain (setting_of_blank h _)

theorem told_of_text (v : Version) {q : SharedSetting} {t : String} (h : q.given p = some t)
    (hblank : blank t = false) : q.told v p = .plain (q.wording t) := by
  have hsome : nonBlank (q.given p) = some (trim t) := by rw [h, nonBlank_some, hblank]; rfl
  have htext (default : String) : Addon.setting (q.given p) default = t := by
    rw [h, setting_of_text hblank]
  cases q with
  | cloudProvider => exact congrArg (fun o => Template.Value.plain (o.getD "")) hsome
  | _ => exact congrArg Template.Value.plain (htext _)

/-! ## Both -/

/-- Templates are told what the document has, and the fallback where the document has nothing. -/
def Agrees (cluster : Yaml) (g : Generation) (v : Version) (p : Parameters) (q : SharedSetting) :
    Prop :=
  (cluster.at? (q.path g) = none ∧ q.told v p = .plain q.fallback) ∨
    ∃ t, cluster.at? (q.path g) = some (.text t) ∧ q.told v p = .plain t

/-- A setting with blanks around a text. -/
def Padded (o : Option String) : Prop := ∃ t, o = some t ∧ blank t = false ∧ trim t ≠ t

/-- A setting is absent from both, or a text that the document has without the blanks around it. -/
theorem cases_of (h : ClusterDocument.of s p = .ok d) (g : Generation) (v : Version)
    (q : SharedSetting) :
    (nonBlank (q.given p) = none ∧ (d.tree g).at? (q.path g) = none ∧
      q.told v p = .plain q.fallback) ∨
    ∃ t, q.given p = some t ∧ blank t = false ∧
      (d.tree g).at? (q.path g) = some (.text (trim t)) ∧ q.told v p = .plain (q.wording t) := by
  rcases hblank : nonBlank (q.given p) with _ | u
  · exact Or.inl ⟨rfl, by rw [at?_path h, hblank]; rfl, told_of_blank v hblank⟩
  · obtain ⟨t, ht, hfilled⟩ := nonBlank_ne_none_iff.mp (hblank.trans_ne (Option.some_ne_none u))
    refine Or.inr ⟨t, ht, hfilled, ?_, told_of_text v ht hfilled⟩
    rw [at?_path h, ht, nonBlank_some, hfilled]
    rfl

theorem agrees_iff (h : ClusterDocument.of s p = .ok d) (g : Generation) (v : Version)
    (q : SharedSetting) :
    q.Agrees (d.tree g) g v p ↔ q = .cloudProvider ∨ ¬Padded (q.given p) := by
  rcases cases_of h g v q with ⟨hblank, hnone, htold⟩ | ⟨t, ht, hfilled, hsome, htold⟩
  · refine iff_of_true (Or.inl ⟨hnone, htold⟩) (Or.inr ?_)
    rintro ⟨t, ht, hfilled, -⟩
    exact nonBlank_ne_none_iff.mpr ⟨t, ht, hfilled⟩ hblank
  · have hagrees : q.Agrees (d.tree g) g v p ↔ q.wording t = trim t := by
      simp [Agrees, hsome, htold, Template.Value.plain, eq_comm]
    have hpadded : Padded (q.given p) ↔ trim t ≠ t := by simp [Padded, ht, hfilled]
    rw [hagrees, hpadded, ne_eq, not_not]
    cases q with
    | cloudProvider => exact iff_of_true rfl (Or.inl rfl)
    | _ => simp [wording, eq_comm]

/-- **The cluster document and the templates of add-ons name the same version. A setting that is
absent or blank is left out of the document, and templates are told its fallback. Any other setting
stands in the document without the blanks around it. Templates are told just this of the cloud
provider, but of the other settings what is given: so they agree unless there are blanks around
it.** -/
theorem agreement_of_rendering {r : Rendering} (h : Node.initRendering v p = .ok r) :
    ∃ s first cluster agent, Selection.of v = .ok s ∧
      Rendering.initTrees s p = .ok (first :: cluster :: agent) ∧
      r = ⟨s.generation, Rendering.assemble (first :: cluster :: agent)⟩ ∧
      cluster.IsOf s.generation.apiVersion "ClusterConfiguration" ∧
      (∃ tag, cluster.field? "kubernetesVersion" = some (.text tag) ∧
        Template.Scopes.find [Addon.values v p] "kubernetes_version" = .plain tag) ∧
      ∀ q : SharedSetting,
        ((nonBlank (q.given p) = none ∧ cluster.at? (q.path s.generation) = none ∧
            q.told v p = .plain q.fallback) ∨
          ∃ t, q.given p = some t ∧ blank t = false ∧
            cluster.at? (q.path s.generation) = some (.text (trim t)) ∧
            q.told v p = .plain (q.wording t)) ∧
        (q.Agrees cluster s.generation v p ↔ q = .cloudProvider ∨ ¬Padded (q.given p)) := by
  obtain ⟨s, hs, hrendering⟩ := Results.bind_eq_ok_iff.mp h
  obtain ⟨trees, htrees, rfl⟩ := Results.map_eq_ok_iff.mp hrendering
  have hdocuments := htrees
  rw [Rendering.initTrees_eq] at hdocuments
  obtain ⟨first, -, hdocuments⟩ := Results.bind_eq_ok_iff.mp hdocuments
  obtain ⟨cluster, hcluster, rfl⟩ := Results.map_eq_ok_iff.mp hdocuments
  refine ⟨s, _, _, _, hs, htrees, rfl, rfl, ⟨v.tag, ?_, rfl⟩, fun q =>
    ⟨cases_of hcluster _ v q, agrees_iff hcluster _ v q⟩⟩
  obtain ⟨-, _, -, rfl⟩ := Selection.of_eq_ok_iff.mp hs
  obtain ⟨endpoint, -, hcluster⟩ := Results.bind_eq_ok_iff.mp hcluster
  cases hcluster
  exact ClusterDocument.field?_version _ _

/-- The documents of a cluster whose settings have no blanks around them. -/
theorem agreement_of_rendering_of_unpadded :
    let p : Parameters :=
      { advertiseAddress := "10.0.0.5"
        clusterName := some "prod"
        cloudProvider := some " aws "
        networking := { podSubnet := some "10.244.0.0/16", dnsDomain := some " " } }
    ∃ s first cluster agent, Rendering.initTrees s p = .ok (first :: cluster :: agent) ∧
      ∀ q : SharedSetting, q.Agrees cluster s.generation ⟨1, 16, 0⟩ p := by
  intro p
  obtain ⟨r, hr⟩ : ∃ r, Node.initRendering ⟨1, 16, 0⟩ p = .ok r :=
    Results.exists_eq_ok_iff.mpr (by decide +kernel)
  obtain ⟨s, first, cluster, agent, -, htrees, -, -, -, hsettings⟩ := agreement_of_rendering hr
  refine ⟨s, first, cluster, agent, htrees, fun q => (hsettings q).2.mpr ?_⟩
  by_cases hq : q = .cloudProvider
  · exact Or.inl hq
  · refine Or.inr ?_
    rintro ⟨t, ht, hfilled, hpadded⟩
    cases q with
    | cloudProvider => exact hq rfl
    | clusterName | podSubnet =>
      cases ht
      exact hpadded (by decide)
    | dnsDomain =>
      cases ht
      exact absurd hfilled (by decide)
    | serviceSubnet | imageRepository => cases ht

/-- The blanks around the name of a cluster are left out of its document, but templates print
them. -/
theorem clusterName_disagrees :
    let p : Parameters := { advertiseAddress := "10.0.0.5", clusterName := some " prod " }
    ∃ r s first cluster agent, Node.initRendering ⟨1, 16, 0⟩ p = .ok r ∧
      Selection.of ⟨1, 16, 0⟩ = .ok s ∧
      Rendering.initTrees s p = .ok (first :: cluster :: agent) ∧
      cluster.at? (clusterName.path s.generation) = some (.text "prod") ∧
      Addon.render ⟨"a.yaml", "\x7b\x7b cluster_name \x7d\x7d"⟩ (Addon.values ⟨1, 16, 0⟩ p) =
        .ok " prod " ∧
      ¬clusterName.Agrees cluster s.generation ⟨1, 16, 0⟩ p := by
  intro p
  obtain ⟨r, hr⟩ : ∃ r, Node.initRendering ⟨1, 16, 0⟩ p = .ok r :=
    Results.exists_eq_ok_iff.mpr (by decide +kernel)
  obtain ⟨s, hs, hrendering⟩ := Results.bind_eq_ok_iff.mp hr
  obtain ⟨trees, htrees, -⟩ := Results.map_eq_ok_iff.mp hrendering
  have hdocuments := htrees
  rw [Rendering.initTrees_eq] at hdocuments
  obtain ⟨first, -, hdocuments⟩ := Results.bind_eq_ok_iff.mp hdocuments
  obtain ⟨cluster, hcluster, rfl⟩ := Results.map_eq_ok_iff.mp hdocuments
  refine ⟨r, s, _, _, _, hr, hs, htrees, ?_, by decide +kernel, ?_⟩
  · rw [at?_path hcluster]
    rfl
  · rw [agrees_iff hcluster]
    rintro (h | h)
    · cases h
    · exact h ⟨" prod ", rfl, by decide, by decide⟩

end

end SharedSetting

end NodeBootstrap
