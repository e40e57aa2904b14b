import NodeBootstrap.Proofs.Contents
import NodeBootstrap.Proofs.ReadBack
import NodeBootstrap.Proofs.Separation
import NodeBootstrap.Proofs.SoundTrees

/-!
# Documents conform to their generation

A rendered document has only fields of its generation, none of them twice, and but for the taints
of a node nothing in it is empty.

* `Yaml.Conforms`: a sound document of which only the taints of a node may be empty;
* `InitDocument.conforms_tree`, `ClusterDocument.conforms_tree`, `JoinDocument.conforms_tree`,
  `KubeletDocument.conforms_tree`: every document conforms;
* `Yaml.IsOf.begins`, `Yaml.IsTidyRecord.parse_write`: a document is written from its heading on,
  and read back;
* **`Rendering.documents_conform`**: the documents that the text of a configuration is made of,
  their kinds, and that they conform.
-/

namespace NodeBootstrap

open Yaml

variable {g : Generation} {p : Parameters} {free : List Step → Prop}

namespace Yaml

/-- The way to the taints of a node. -/
def IsTaints (path : List Step) : Prop := path = [.field "nodeRegistration", .field "taints"]

/-- A document whose parts are sound. Only the taints of a node may be empty. -/
def Conforms (g : Generation) (y : Yaml) : Prop := y.SoundBut g IsTaints

end Yaml

/-! ## Parts of documents -/

theorem Endpoint.soundBut_tree (e : Endpoint) : e.tree.SoundBut g free :=
  ((SoundFields.single (by decide) (soundBut_text e.host)).append
    (SoundFields.single (by decide) (soundBut_number e.port.toNat))).record
    (by cases g <;> decide) (by simp)

theorem Taint.soundBut_tree (t : Taint) : t.tree.SoundBut g free := by
  have hvalue : SoundFields g free ["value"]
      (if t.value = "" then [] else [("value", text t.value)]) := by
    split
    · exact SoundFields.none_of _
    · exact SoundFields.single (by decide) (soundBut_text t.value)
  exact (((SoundFields.single (by decide) (soundBut_text t.key)).append hvalue).append
    (SoundFields.single (by decide) (soundBut_text t.effect))).record
    (by cases g <;> decide) (by simp)

theorem NodeRegistration.soundBut_tree (p : Parameters) (hfree : free [.field "taints"]) :
    (NodeRegistration.of p).tree.SoundBut g free := by
  have htaints : (list ((NodeRegistration.of p).taints.map Taint.tree)).SoundBut g
      fun path => free (.field "taints" :: path) :=
    soundBut_list (fun _ => hfree) fun y hy free => by
      obtain ⟨t, -, rfl⟩ := List.mem_map.mp hy
      exact t.soundBut_tree
  have hsocket : SoundFields g free ["criSocket", "taints"]
      [("criSocket", text (NodeRegistration.of p).criSocket),
        ("taints", list ((NodeRegistration.of p).taints.map Taint.tree))] :=
    (SoundFields.single (by decide) (soundBut_text _)).append
      (SoundFields.single (by decide) htaints)
  have harguments : SoundFields g free ["kubeletExtraArgs"]
      (unlessEmpty "kubeletExtraArgs" (NodeRegistration.of p).kubeletArguments table) :=
    SoundFields.unlessEmpty (by decide)
      (soundBut_table (within_of p) (by cases g <;> decide) (by decide))
  exact (((SoundFields.optionalText _ _ (by decide)).append hsocket).append harguments).record
    (by cases g <;> decide) (by simp)

theorem Mount.soundBut_tree (m : Mount) : (m.tree g).SoundBut g free := by
  have haccess : SoundFields g free [if g.flatComponents then "writable" else "readOnly"]
      [if g.flatComponents then ("writable", flag m.writable)
        else ("readOnly", flag !m.writable)] := by
    split
    · exact SoundFields.single (by decide) (soundBut_flag _)
    · exact SoundFields.single (by decide) (soundBut_flag _)
  have hplaces : SoundFields g free ["name", "hostPath", "mountPath"]
      [("name", text m.name), ("hostPath", text m.path), ("mountPath", text m.path)] :=
    (SoundFields.single (by decide) (soundBut_text _)).append
      ((SoundFields.single (by decide) (soundBut_text _)).append
        (SoundFields.single (by decide) (soundBut_text _)))
  exact ((hplaces.append haccess).append
    (SoundFields.single (by decide) (soundBut_text _))).record (by cases g <;> decide) (by simp)

theorem Mount.access (g : Generation) (m : Mount) :
    Xor ("writable" ∈ (m.tree g).keys) ("readOnly" ∈ (m.tree g).keys) := by
  cases g <;> simp [tree, Generation.flatComponents, Xor]

/-- A field of mounts. -/
theorem soundFields_mounts (key : String) (ms : List Mount) :
    SoundFields g free [key] (unlessEmpty key ms (mountsTree g)) := by
  rcases ms with _ | ⟨m, ms⟩
  · exact SoundFields.none_of _
  · refine ⟨Named.single _, fun f hf => ?_, fun f hf _ => ?_⟩
    · obtain rfl := List.mem_singleton.mp hf
      refine soundBut_list (by simp) fun y hy free => ?_
      obtain ⟨m, -, rfl⟩ := List.mem_map.mp hy
      exact m.soundBut_tree
    · obtain rfl := List.mem_singleton.mp hf
      refine ⟨_, rfl, fun item hitem => ?_⟩
      obtain ⟨m, -, rfl⟩ := List.mem_map.mp hitem
      exact m.access g

theorem Etcd.soundBut_tree (e : EtcdParameters) : (Etcd.of e).tree.SoundBut g free := by
  cases he : e.isExternal with
  | true =>
    have hne : e.endpoints ≠ [] := by simpa [EtcdParameters.isExternal] using he
    rw [Etcd.of, he]
    refine (SoundFields.single (by decide) ?_).record (by cases g <;> decide) (by simp)
    have hfiles (file : String) (value : Option String) (hfile : file ∉ mountFields) :=
      @SoundFields.optionalText g (fun path => free (.field "external" :: path)) file value hfile
    have hendpoints : SoundFields g (fun path => free (.field "external" :: path)) ["endpoints"]
        [("endpoints", texts e.endpoints)] := SoundFields.single (by decide) (soundBut_texts hne)
    exact (((hendpoints.append (hfiles "caFile" _ (by decide))).append
      (hfiles "certFile" _ (by decide))).append (hfiles "keyFile" _ (by decide))).record
      (by cases g <;> decide) (by simp)
  | false =>
    rw [Etcd.of, he]
    refine (SoundFields.single (by decide) ?_).record (by cases g <;> decide) (by simp)
    exact (SoundFields.single (by decide) (soundBut_text _)).record
      (by cases g <;> decide) (by simp)

/-! ## Documents -/

theorem soundFields_registration (p : Parameters) :
    SoundFields g IsTaints ["nodeRegistration"]
      [("nodeRegistration", (NodeRegistration.of p).tree)] :=
  SoundFields.single (by decide) (NodeRegistration.soundBut_tree p rfl)

/-- The names under which a generation keeps the certificate key. -/
def Generation.certificateNames (g : Generation) : List String :=
  if g.certificateKeys then ["certificateKey"] else []

theorem soundFields_certificateKey (p : Parameters) : SoundFields g free g.certificateNames
    (optionalText "certificateKey" (p.usableCertificateKey g)) := by
  unfold Generation.certificateNames Parameters.usableCertificateKey
  split
  · exact SoundFields.optionalText _ _ (by decide)
  · exact SoundFields.none_of _

theorem InitDocument.conforms_tree {d : InitDocument} (h : InitDocument.of g p = .ok d) :
    (d.tree g).Conforms g := by
  obtain ⟨advertised, -, h⟩ := Results.bind_eq_ok_iff.mp h
  obtain ⟨token, -, h⟩ := Results.bind_eq_ok_iff.mp h
  cases h
  have htokens : SoundFields g IsTaints
      ["bootstrapTokens"] (optional "bootstrapTokens"
        (token.map fun t => list [record [("token", text t)]])) :=
    SoundFields.optional (by decide) fun y hy => by
      obtain ⟨t, -, rfl⟩ := Option.map_eq_some_iff.mp hy
      refine soundBut_list (by simp) fun y hy free => ?_
      obtain rfl := List.mem_singleton.mp hy
      exact (SoundFields.single (by decide) (soundBut_text t)).record
        (by cases g <;> decide) (by simp)
  have hadvertised : SoundFields g IsTaints
      [g.advertisedKey] [(g.advertisedKey, advertised.tree)] :=
    SoundFields.single (by cases g <;> decide) advertised.soundBut_tree
  exact ((((SoundFields.heading _ _).append htokens).append
    (hadvertised.append (soundFields_registration p))).append
    (soundFields_certificateKey p)).record
    (by cases g <;> decide) (by simp [heading])

namespace Component

variable {key : String}

theorem soundFields_apiServer (s : Selection) (p : Parameters) (hkey : key ∉ mountFields) :
    SoundFields g free [key] (unlessEmpty key (apiServer s p).arguments table) := by
  have hnames : g.Admits (apiServerNames ++ [s.encryptionFlag]) ∧
      ∀ name ∈ apiServerNames ++ [s.encryptionFlag], name ∉ mountFields := by
    unfold Selection.encryptionFlag
    split
    · exact ⟨by cases g <;> decide, by decide⟩
    · exact ⟨by cases g <;> decide, by decide⟩
  exact SoundFields.unlessEmpty hkey (soundBut_table (within_apiServer s p) hnames.1 hnames.2)

theorem soundFields_controllerManager (p : Parameters) (hkey : key ∉ mountFields) :
    SoundFields g free [key] (unlessEmpty key (controllerManager p).arguments table) :=
  SoundFields.unlessEmpty hkey
    (soundBut_table (within_controllerManager p) (by cases g <;> decide) (by decide))

end Component

namespace ClusterDocument

theorem soundFields_network (d : ClusterDocument) :
    SoundFields g free ["networking"] (unlessEmpty "networking" d.networkFields record) :=
  SoundFields.unlessEmpty (by decide) fun hne =>
    (((SoundFields.optionalText _ _ (by decide)).append
      (SoundFields.optionalText _ _ (by decide))).append
      (SoundFields.optionalText _ _ (by decide))).record (by cases g <;> decide) hne

theorem soundFields_certSans (key : String) (sans : List String) (hkey : key ∉ mountFields) :
    SoundFields g free [key] (unlessEmpty key sans texts) :=
  SoundFields.unlessEmpty hkey soundBut_texts

/-- The names of the fields that hold the settings of the components. -/
def componentNames (g : Generation) : List String :=
  if g.flatComponents then
    ["apiServerCertSANs", "apiServerExtraArgs", "apiServerExtraVolumes",
      "controllerManagerExtraArgs", "controllerManagerExtraVolumes"]
  else ["apiServer", "controllerManager"]

variable {s : Selection} {d : ClusterDocument}

theorem soundFields_flat (h : ClusterDocument.of s p = .ok d) :
    SoundFields g free ["apiServerCertSANs", "apiServerExtraArgs", "apiServerExtraVolumes",
      "controllerManagerExtraArgs", "controllerManagerExtraVolumes"] (d.flatFields g) := by
  obtain ⟨hserver, hmanager, -⟩ := components_of h
  rw [flatFields, hserver, hmanager]
  exact ((((soundFields_certSans _ _ (by decide)).append
    (Component.soundFields_apiServer s p (by decide))).append
    (soundFields_mounts _ _)).append
    (Component.soundFields_controllerManager p (by decide))).append
    (soundFields_mounts _ _)

theorem soundFields_grouped (h : ClusterDocument.of s p = .ok d) :
    SoundFields g free ["apiServer", "controllerManager"] (d.groupedFields g) := by
  obtain ⟨hserver, hmanager, -⟩ := components_of h
  rw [groupedFields, hserver, hmanager]
  refine (SoundFields.unlessEmpty (by decide) fun hne => ?_).append
    (SoundFields.unlessEmpty (by decide) fun hne => ?_)
  · exact (((soundFields_certSans _ _ (by decide)).append
      (Component.soundFields_apiServer s p (by decide))).append
      (soundFields_mounts _ _)).record (by cases g <;> decide) hne
  · exact ((Component.soundFields_controllerManager p (by decide)).append
      (soundFields_mounts _ _)).record (by cases g <;> decide) hne

theorem conforms_tree (h : ClusterDocument.of s p = .ok d) : (d.tree g).Conforms g := by
  have hcomponents : SoundFields g IsTaints (componentNames g)
      (if g.flatComponents then d.flatFields g else d.groupedFields g) := by
    unfold componentNames
    split
    · exact soundFields_flat h
    · exact soundFields_grouped h
  have hstore : SoundFields g IsTaints ["etcd"] [("etcd", d.etcd.tree)] :=
    SoundFields.single (by decide) ((components_of h).2.2 ▸ Etcd.soundBut_tree p.etcd)
  have hheading : SoundFields g IsTaints ["apiVersion", "kind", "kubernetesVersion"]
      (heading g.apiVersion "ClusterConfiguration" ++
        [("kubernetesVersion", text d.version.tag)]) :=
    (SoundFields.heading _ _).append (SoundFields.single (by decide) (soundBut_text _))
  have hname := hheading.append (SoundFields.optionalText "clusterName" d.clusterName (by decide))
  have hendpoint := hname.append (SoundFields.optionalText "controlPlaneEndpoint"
    d.controlPlaneEndpoint (by decide))
  have himages := hendpoint.append (SoundFields.optionalText "imageRepository"
    d.imageRepository (by decide))
  exact (((himages.append d.soundFields_network).append hstore).append hcomponents).record
    (by cases g <;> decide) (by simp [heading])

end ClusterDocument

namespace JoinDocument

variable {d : JoinDocument}

/-- The names of the fields that hold the settings for joining. -/
def joinNames (g : Generation) : List String :=
  if g.flatComponents then
    ["token", "discoveryTokenAPIServers", "discoveryTokenCACertHashes",
      "discoveryTokenUnsafeSkipCAVerification", "controlPlane", "apiEndpoint"]
  else ["discovery", "controlPlane"]

theorem soundFields_flatDiscovery (d : JoinDocument) :
    SoundFields g free ["token", "discoveryTokenAPIServers", "discoveryTokenCACertHashes",
      "discoveryTokenUnsafeSkipCAVerification"] d.flatDiscoveryFields := by
  have hservers : SoundFields g free ["token", "discoveryTokenAPIServers"]
      [("token", text d.token), ("discoveryTokenAPIServers", texts [d.endpoint])] :=
    (SoundFields.single (by decide) (soundBut_text _)).append
      (SoundFields.single (by decide) (soundBut_texts (by simp)))
  have hhashes : SoundFields g free ["discoveryTokenCACertHashes"]
      (unlessEmpty "discoveryTokenCACertHashes" d.caCertHashes texts) :=
    SoundFields.unlessEmpty (by decide) soundBut_texts
  exact (hservers.append hhashes).append (SoundFields.single (by decide) (soundBut_flag _))

theorem soundFields_flatControl (d : JoinDocument) :
    SoundFields g free ["controlPlane", "apiEndpoint"] d.flatControlFields := by
  unfold flatControlFields
  split
  · exact (SoundFields.single (by decide) (soundBut_flag _)).append
      (SoundFields.single (by decide) (Endpoint.soundBut_tree _))
  · exact SoundFields.none_of _

theorem soundBut_discovery (d : JoinDocument) :
    (record [("bootstrapToken", record d.discoveryFields)]).SoundBut g free := by
  have htoken {free : List Step → Prop} : SoundFields g free ["apiServerEndpoint", "token"]
      [("apiServerEndpoint", text d.endpoint), ("token", text d.token)] :=
    (SoundFields.single (by decide) (soundBut_text _)).append
      (SoundFields.single (by decide) (soundBut_text _))
  have hhashes {free : List Step → Prop} : SoundFields g free ["caCertHashes"]
      (unlessEmpty "caCertHashes" d.caCertHashes texts) :=
    SoundFields.unlessEmpty (by decide) soundBut_texts
  refine (SoundFields.single (by decide) ?_).record (by cases g <;> decide) (by simp)
  exact ((htoken.append hhashes).append (SoundFields.single (by decide) (soundBut_flag _))).record
    (by cases g <;> decide) (by simp)

theorem soundFields_control (h : JoinDocument.of g p = .ok d) (hg : g.flatComponents = false) :
    SoundFields g free ["controlPlane"] d.controlFields := by
  refine SoundFields.optional (by decide) fun y hy => ?_
  obtain ⟨c, hc, rfl⟩ := Option.map_eq_some_iff.mp hy
  have hadmits : g.Admits (["localAPIEndpoint"] ++ g.certificateNames) := by
    cases g with
    | v1alpha3 => cases hg
    | v1beta1 => decide
    | v1beta2 => decide
  have hadvertised : SoundFields g (fun path => free (.field "controlPlane" :: path))
      ["localAPIEndpoint"] [("localAPIEndpoint", c.advertised.tree)] :=
    SoundFields.single (by decide) c.advertised.soundBut_tree
  rcases JoinControlPlane.of?_eq_ok_iff.mp (controlPlane_of h) with ⟨-, hnone⟩ | ⟨-, e, -, hsome⟩
  · cases hc.symm.trans hnone
  · cases hc.symm.trans hsome
    exact (hadvertised.append (soundFields_certificateKey p)).record hadmits (by simp)

theorem conforms_tree (h : JoinDocument.of g p = .ok d) : (d.tree g).Conforms g := by
  have hjoin : SoundFields g IsTaints (joinNames g)
      (if g.flatComponents then d.flatFields else d.groupedFields) := by
    unfold joinNames
    split
    · rw [flatFields_eq]
      exact (soundFields_flatDiscovery d).append (soundFields_flatControl d)
    · next hg =>
      rw [groupedFields_eq]
      exact (SoundFields.single (by decide) (soundBut_discovery d)).append
        (soundFields_control h ((Bool.not_eq_true _).mp hg))
  have hregistration := soundFields_registration (g := g) p
  rw [← registration_of h] at hregistration
  exact (((SoundFields.heading _ _).append hjoin).append hregistration).record
    (by cases g <;> decide) (by simp [heading])

end JoinDocument

theorem KubeletDocument.conforms_tree {d : KubeletDocument} (h : KubeletDocument.of? p = some d) :
    d.tree.Conforms g := by
  have hreserved : SoundFields g IsTaints ["systemReserved"]
      (unlessEmpty "systemReserved" d.systemReserved table) :=
    SoundFields.unlessEmpty (by decide)
      (soundBut_table (within_of h) (by cases g <;> decide) (by decide))
  exact (((SoundFields.heading _ _).append (SoundFields.optionalText _ _ (by decide))).append
    hreserved).record (by cases g <;> decide) (by simp [heading])

/-! ## Whole configurations -/

namespace Yaml

/-- A document that begins with its generation and its kind. -/
def IsOf (apiVersion kind : String) (y : Yaml) : Prop := y.fields.take 2 = heading apiVersion kind

/-- A document is written from its heading on. -/
theorem IsOf.begins {y : Yaml} {apiVersion kind : String} (h : y.IsOf apiVersion kind)
    (hversion : writeText 2 apiVersion = ' ' :: apiVersion.toList ++ ['\n'])
    (hkind : writeText 2 kind = ' ' :: kind.toList ++ ['\n']) :
    ("apiVersion: " ++ apiVersion ++ "\nkind: " ++ kind ++ "\n").toList <+: y.write := by
  obtain ⟨fs, rfl⟩ : ∃ fs, y = record (heading apiVersion kind ++ fs) := by
    rw [IsOf] at h
    cases y with
    | record fs => exact ⟨fs.drop 2, by rw [← h]; simp [fields]⟩
    | _ => simp [fields, heading] at h
  refine ⟨writeFields 0 fs, ?_⟩
  simp [heading, write, writeFields, writeField, writeValue, hversion, hkind, Scalar.spaces]

/-- A document is read back. -/
theorem IsTidyRecord.parse_write {y : Yaml} {ends : Char → Prop} (h : y.IsTidyRecord ends) :
    parse (String.ofList y.write) = some y.value := by
  obtain ⟨f, fs, rfl, htidy⟩ := h
  exact Yaml.parse_write (htidy.mono fun _ _ => trivial)

/-- The taints with which a document registers a node. -/
def taints? (y : Yaml) : Option Yaml := (y.field? "nodeRegistration").bind (field? "taints")

end Yaml

theorem NodeRegistration.field?_taints (p : Parameters) :
    (NodeRegistration.of p).tree.field? "taints" = some (list (p.taints.map Taint.tree)) :=
  (@soundBut_tree .v1beta2 (fun _ => True) p trivial).field? (by simp [of])

theorem InitDocument.taints?_tree {d : InitDocument} (h : InitDocument.of g p = .ok d) :
    (d.tree g).taints? = some (list (p.taints.map Taint.tree)) := by
  rw [taints?, d.field?_registration, registration_of h]
  exact NodeRegistration.field?_taints p

theorem JoinDocument.taints?_tree {d : JoinDocument} (h : JoinDocument.of g p = .ok d) :
    (d.tree g).taints? = some (list (p.taints.map Taint.tree)) := by
  rw [taints?, d.field?_registration, registration_of h]
  exact NodeRegistration.field?_taints p

theorem ClusterDocument.field?_etcd {s : Selection} {d : ClusterDocument}
    (h : ClusterDocument.of s p = .ok d) :
    (d.tree g).field? "etcd" = some (Etcd.of p.etcd).tree := by
  have hfield : (d.tree g).field? "etcd" = some d.etcd.tree := (conforms_tree h).field? (by simp)
  rw [hfield, (components_of h).2.2]

/-- There is one place for the store, outside the cluster exactly when there are endpoints. -/
theorem Etcd.exists_tree_of (e : EtcdParameters) : ∃ y, (Etcd.of e).tree =
    record [(if e.endpoints = [] then "local" else "external", y)] := by
  rcases he : e.endpoints with _ | ⟨endpoint, more⟩
  · rw [Etcd.of, EtcdParameters.isExternal, he]
    exact ⟨_, rfl⟩
  · rw [Etcd.of, EtcdParameters.isExternal, he]
    exact ⟨_, rfl⟩

namespace Rendering

variable {s : Selection} {r : Rendering}

/-- The document of the node agent, which is there exactly when something is said of it. -/
def IsAgentPart (k : KubeletParameters) (ys : List Yaml) : Prop :=
  (k.Given ∧ ∃ y, ys = [y] ∧ y.IsOf "kubelet.config.k8s.io/v1beta1" "KubeletConfiguration") ∨
    ¬k.Given ∧ ys = []

theorem isAgentPart_agentPart (g : Generation) (p : Parameters) :
    IsAgentPart p.kubelet (agentPart p) ∧ ∀ y ∈ agentPart p, y.Conforms g := by
  have hsome := KubeletDocument.isSome_of?_iff p
  unfold agentPart
  rcases hd : KubeletDocument.of? p with _ | d
  · rw [hd] at hsome
    exact ⟨Or.inr ⟨by simpa using hsome, rfl⟩, by simp⟩
  · rw [hd] at hsome
    refine ⟨Or.inl ⟨hsome.mp rfl, d.tree, rfl, rfl⟩, fun y hy => ?_⟩
    obtain rfl := List.mem_singleton.mp hy
    exact KubeletDocument.conforms_tree hd

/-- A document of a generation is written from its heading on. -/
theorem begins_of_generation {y : Yaml} {kind : String} (h : y.IsOf g.apiVersion kind)
    (hkind : writeText 2 kind = ' ' :: kind.toList ++ ['\n']) :
    ("apiVersion: " ++ g.apiVersion ++ "\nkind: " ++ kind ++ "\n").toList <+: y.write :=
  h.begins (by cases g <;> decide) hkind

/-- **The documents of a configuration conform.** The text is the documents with a line of three
dashes between each two, each of them a section that begins with its kind and is read back. The
configuration of a first node is its own document and the one that all nodes share, the
configuration of a further node is its own document; the node agent's document follows exactly when
something is said of it. All of them conform to the generation; the taints of the node are always
there, and the store is in one place, outside the cluster exactly when it has endpoints. -/
theorem documents_conform (s : Selection) (p : Parameters) :
    let madeOf (r : Rendering) (documents : List Yaml) : Prop :=
      r.generation = s.generation ∧
      r.text.toList = "---\n".toList.intercalate (documents.map write) ∧
      StandApart isBreak r.text documents ∧
      ∀ document ∈ documents, document.Conforms s.generation ∧
        parse (String.ofList document.write) = some document.value
    let begins (apiVersion kind : String) (y : Yaml) : Prop :=
      y.fields.take 2 = [("apiVersion", .text apiVersion), ("kind", .text kind)] ∧
      ("apiVersion: " ++ apiVersion ++ "\nkind: " ++ kind ++ "\n").toList <+: y.write
    let agentPart (agent : List Yaml) : Prop :=
      IsAgentPart p.kubelet agent ∧
      ∀ y ∈ agent, begins "kubelet.config.k8s.io/v1beta1" "KubeletConfiguration" y
    (∀ r, init s p = .ok r → ∃ first cluster agent,
      initTrees s p = .ok (first :: cluster :: agent) ∧ madeOf r (first :: cluster :: agent) ∧
      begins s.generation.apiVersion "InitConfiguration" first ∧
      begins s.generation.apiVersion "ClusterConfiguration" cluster ∧ agentPart agent ∧
      first.taints? = some (list (p.taints.map Taint.tree)) ∧
      ∃ store, cluster.field? "etcd" =
        some (record [(if p.etcd.endpoints = [] then "local" else "external", store)])) ∧
    ∀ r, join s p = .ok r → ∃ further agent,
      joinTrees s p = .ok (further :: agent) ∧ madeOf r (further :: agent) ∧
      begins s.generation.apiVersion "JoinConfiguration" further ∧ agentPart agent ∧
      further.taints? = some (list (p.taints.map Taint.tree)) := by
  intro madeOf begins agentPart
  obtain ⟨hagent, hconforms⟩ := isAgentPart_agentPart s.generation p
  have hagentPart : agentPart (Rendering.agentPart p) := by
    refine ⟨hagent, fun y hy => ?_⟩
    rcases hagent with ⟨-, y', hone, hof⟩ | ⟨-, hnone⟩
    · obtain rfl := List.mem_singleton.mp (hone ▸ hy)
      exact ⟨hof, hof.begins (by decide) (by decide)⟩
    · simp [hnone] at hy
  have hmadeOf {y : Yaml} {ys : List Yaml}
      (htidy : ∀ document ∈ y :: ys, document.IsTidyRecord (Ends isBreak))
      (h : ∀ document ∈ y :: ys, document.Conforms s.generation) :
      madeOf ⟨s.generation, assemble (y :: ys)⟩ (y :: ys) :=
    ⟨rfl, toList_assemble _, standApart_assemble (by decide) (fun _ hc => hc) (by simp) htidy,
      fun document hd => ⟨h document hd, (htidy document hd).parse_write⟩⟩
  constructor
  · intro r h
    obtain ⟨trees, htrees, rfl⟩ := Results.map_eq_ok_iff.mp h
    have htidy := tidy_initTrees (closing_isBreak p) htrees
    obtain ⟨first, cluster, hfirst, hcluster, rfl⟩ := initTrees_eq_ok_iff.mp htrees
    obtain ⟨store, hstore⟩ := Etcd.exists_tree_of p.etcd
    refine ⟨_, _, _, htrees, hmadeOf htidy ?_, ⟨rfl, begins_of_generation rfl (by decide)⟩,
      ⟨rfl, begins_of_generation rfl (by decide)⟩, hagentPart, InitDocument.taints?_tree hfirst,
      store, hstore ▸ ClusterDocument.field?_etcd hcluster⟩
    exact List.forall_mem_cons.mpr ⟨InitDocument.conforms_tree hfirst,
      List.forall_mem_cons.mpr ⟨ClusterDocument.conforms_tree hcluster, hconforms⟩⟩
  · intro r h
    obtain ⟨trees, htrees, rfl⟩ := Results.map_eq_ok_iff.mp h
    have htidy := tidy_joinTrees (closing_isBreak p) htrees
    obtain ⟨further, hfurther, rfl⟩ := joinTrees_eq_ok_iff.mp htrees
    refine ⟨_, _, htrees, hmadeOf htidy ?_, ⟨rfl, begins_of_generation rfl (by decide)⟩,
      hagentPart, JoinDocument.taints?_tree hfurther⟩
    exact List.forall_mem_cons.mpr ⟨JoinDocument.conforms_tree hfurther, hconforms⟩

/-- A node with an address and a token has both configurations, so that both parts apply. -/
theorem documents_conform_of_token :
    let s : Selection := ⟨⟨1, 16, 0⟩, .v1beta2, false⟩
    let p : Parameters :=
      { advertiseAddress := "10.0.0.10"
        join := { apiServerEndpoint := some "10.0.0.1"
                  token := some "abcdef.0123456789abcdef" } }
    (∃ r first cluster agent, init s p = .ok r ∧
      r.text.toList = "---\n".toList.intercalate ((first :: cluster :: agent).map write) ∧
      ∀ document ∈ first :: cluster :: agent, document.Conforms .v1beta2) ∧
    ∃ r further agent, join s p = .ok r ∧
      r.text.toList = "---\n".toList.intercalate ((further :: agent).map write) ∧
      ∀ document ∈ further :: agent, document.Conforms .v1beta2 := by
  intro s p
  obtain ⟨hinit, hjoin⟩ := documents_conform s p
  obtain ⟨r, hr⟩ : ∃ r, init s p = .ok r := Results.exists_eq_ok_iff.mpr (by decide +kernel)
  obtain ⟨r', hr'⟩ : ∃ r', join s p = .ok r' := Results.exists_eq_ok_iff.mpr (by decide +kernel)
  obtain ⟨first, cluster, agent, -, ⟨-, htext, -, hfirst⟩, -⟩ := hinit r hr
  obtain ⟨further, agent', -, ⟨-, htext', -, hfurther⟩, -⟩ := hjoin r' hr'
  exact ⟨⟨r, first, cluster, agent, hr, htext, fun d hd => (hfirst d hd).1⟩,
    r', further, agent', hr', htext', fun d hd => (hfurther d hd).1⟩

end Rendering

end NodeBootstrap
