import NodeBootstrap.Proofs.Addresses
import NodeBootstrap.Proofs.CommaLists
import NodeBootstrap.Proofs.FilledTrees
import NodeBootstrap.Proofs.TaintForms
import NodeBootstrap.Proofs.TidyDocuments

/-!
# Documents are filled

A setting that is blank or absent is left out of the documents; nothing stands in for it as an empty
text.

* `Parameters.Filled`: settings whose lists have no blank items, whose taints are taints, and whose
  directory for the audit log is more than the root;
* `Taint.IsUnnamed`: the place of a taint's key, where the taint has none;
* `Component.filled_apiServer`, `Etcd.filled_tree`, …: the parts of documents;
* `InitDocument.filledBut_tree`, `ClusterDocument.filled_tree`, …: the documents;
* **`Rendering.texts_filled`**: of all the texts in the documents of a configuration only the keys
  of taints are empty, of those that have none.
-/

namespace NodeBootstrap

open Text Yaml

/-! ## Settings -/

/-- Settings that leave nothing empty: items of lists are not blank, taints are what texts are read
as, and the directory for the audit log is blank or has more than slashes. -/
structure Parameters.Filled (p : Parameters) : Prop where
  certSans : ∀ x ∈ p.certSans, blank x = false
  enableAdmissionPlugins : ∀ x ∈ p.apiServer.enableAdmissionPlugins, blank x = false
  disableAdmissionPlugins : ∀ x ∈ p.apiServer.disableAdmissionPlugins, blank x = false
  endpoints : ∀ x ∈ p.etcd.endpoints, blank x = false
  caCertHashes : ∀ x ∈ p.join.caCertHashes, blank x = false
  taints : ∀ t ∈ p.taints, ∃ spec, Taint.parse spec = .ok t
  auditLogDir : ∀ dir, p.apiServer.auditLogDir = some dir →
    blank dir = true ∨ ∃ c ∈ dir.toList, c ≠ '/' ∧ isBlank c = false

variable {g : Generation} {s : Selection} {p : Parameters} {free : List Step → Prop}

theorem Parameters.Filled.directory (h : p.Filled) {dir : String}
    (hdir : nonBlank p.apiServer.auditLogDir = some dir) : withoutSlashes dir ≠ "" := by
  obtain ⟨setting, hsetting, htrim⟩ :=
    Option.map_eq_some_iff.mp (Option.filter_eq_some_iff.mp hdir).1
  rw [Ne, withoutSlashes_eq_empty_iff, ← htrim]
  rcases h.auditLogDir setting hsetting with hblank | ⟨c, hc, hslash, hsolid⟩
  · exact absurd (trim_eq_empty_iff.mpr hblank) (htrim ▸ ne_empty_of_nonBlank hdir)
  · exact fun hslashes => hslash (hslashes c (mem_trim hc hsolid))

/-! ## Arguments and mounts -/

theorem Text.glue_ne_empty {v : String} {vs : List String} (h : v ≠ "") :
    glue "," (v :: vs) ≠ "" := by
  obtain ⟨c, cs, hv⟩ := List.exists_cons_of_ne_nil (mt String.toList_eq_nil_iff.mp h)
  have hmem : c ∈ Chars.glue [','] ((v :: vs).map String.toList) :=
    Chars.mem_glue_of_mem (p := v.toList) (by simp) (by simp [hv])
  intro hempty
  rw [glue, String.ofList_eq_empty_iff] at hempty
  rw [show [','] = ",".toList from rfl, hempty] at hmem
  cases hmem

/-- Arguments with names and values. -/
def FilledArguments (m : List (String × String)) : Prop := ∀ a ∈ m, a.1 ≠ "" ∧ a.2 ≠ ""

namespace FilledArguments

variable {name value : String} {m m' : List (String × String)}

theorem none_of : FilledArguments [] := by simp [FilledArguments]

theorem cons (hname : name ≠ "") (hvalue : value ≠ "") (h : FilledArguments m) :
    FilledArguments ((name, value) :: m) := List.forall_mem_cons.mpr ⟨⟨hname, hvalue⟩, h⟩

theorem append (h : FilledArguments m) (h' : FilledArguments m') : FilledArguments (m ++ m') :=
  List.forall_mem_append.mpr ⟨h, h'⟩

theorem argument {value : Option String} (hname : name ≠ "") (h : ∀ s, value = some s → s ≠ "") :
    FilledArguments (NodeBootstrap.argument name value) :=
  forall_mem_argument.mpr fun v hv => ⟨hname, h v hv⟩

theorem given (name : String) (hname : name ≠ "") (o : Option String) :
    FilledArguments (NodeBootstrap.argument name (nonBlank o)) :=
  argument hname fun _ hs => ne_empty_of_nonBlank hs

theorem listArgument {values : List String} (hname : name ≠ "")
    (h : ∀ x ∈ values, blank x = false) :
    FilledArguments (NodeBootstrap.listArgument name values) :=
  forall_mem_listArgument.mpr fun hne => by
    obtain ⟨v, vs, rfl⟩ := List.exists_cons_of_ne_nil hne
    exact ⟨hname, glue_ne_empty (ne_empty_of_not_blank (h v List.mem_cons_self))⟩

theorem ofList (h : FilledArguments m) : FilledArguments (Arguments.ofList m) :=
  fun a ha => h a (Arguments.mem_of_mem_ofList ha)

end FilledArguments

/-- A component whose arguments have names and values, and whose mounts have paths. -/
structure Component.Filled (c : Component) : Prop where
  arguments : FilledArguments c.arguments
  mounts : ∀ m ∈ c.mounts, m.name ≠ "" ∧ m.path ≠ "" ∧ m.pathType ≠ ""

namespace Component

theorem Filled.together {parts : List Component} (h : ∀ c ∈ parts, c.Filled) :
    (together parts).Filled := by
  obtain ⟨harguments, hmounts⟩ :=
    forall_mem_together fun c hc => And.intro (h c hc).arguments (h c hc).mounts
  exact ⟨harguments, hmounts⟩

theorem Filled.of_arguments {m : Arguments} (h : FilledArguments m) :
    Filled { arguments := m } := ⟨h, by simp⟩

theorem filled_ofProvider (p : Parameters) : (ofProvider p.provider).Filled := by
  rcases hname : p.provider with _ | name
  · exact .of_arguments .none_of
  · have hvalue : name ≠ "" := ne_empty_of_nonBlank hname
    unfold ofProvider
    dsimp only
    split
    · exact ⟨.cons (by decide) hvalue (.cons (by decide) (by decide) .none_of),
        List.forall_mem_singleton.mpr (by decide)⟩
    · exact .of_arguments (.cons (by decide) hvalue .none_of)

theorem filled_ofAuditLog (h : p.Filled) :
    (ofAuditLog (nonBlank p.apiServer.auditLogDir)).Filled := by
  rcases hdir : nonBlank p.apiServer.auditLogDir with _ | dir
  · exact .of_arguments .none_of
  · have hlog : withoutSlashes dir ++ "/audit.log" ≠ "" := by simp
    refine ⟨.cons (by decide) hlog <| .cons (by decide) (by decide) <|
      .cons (by decide) (by decide) <| .cons (by decide) (by decide) <|
      .cons (by decide) (by decide) .none_of, ?_⟩
    exact List.forall_mem_cons.mpr ⟨⟨by simp, h.directory hdir, by simp⟩,
      List.forall_mem_singleton.mpr (by decide)⟩

theorem filled_ofEncryption (s : Selection) (path : Option String) :
    (ofEncryption s.encryptionFlag (nonBlank path)).Filled := by
  have hflag : s.encryptionFlag ≠ "" := by
    unfold Selection.encryptionFlag
    split <;> decide
  rcases hpath : nonBlank path with _ | file
  · exact .of_arguments .none_of
  · have hfile : file ≠ "" := ne_empty_of_nonBlank hpath
    exact ⟨.cons hflag hfile .none_of,
      List.forall_mem_singleton.mpr ⟨by simp [fileMount], hfile, by simp [fileMount]⟩⟩

theorem filled_apiServer (h : p.Filled) (s : Selection) : (apiServer s p).Filled := by
  refine Filled.together (List.forall_mem_cons.mpr ⟨filled_ofProvider p,
    List.forall_mem_cons.mpr ⟨.of_arguments ?_, List.forall_mem_cons.mpr ⟨filled_ofAuditLog h,
      List.forall_mem_singleton.mpr (filled_ofEncryption s _)⟩⟩⟩)
  exact ((((FilledArguments.given _ (by decide) _).append (.given _ (by decide) _)).append
    (.given _ (by decide) _)).append (.listArgument (by decide) h.enableAdmissionPlugins)).append
    (.listArgument (by decide) h.disableAdmissionPlugins)

theorem filled_controllerManager (p : Parameters) : (controllerManager p).Filled :=
  Filled.together (List.forall_mem_cons.mpr ⟨filled_ofProvider p,
    List.forall_mem_singleton.mpr (.of_arguments
      ((FilledArguments.given _ (by decide) _).append (.given _ (by decide) _)))⟩)

end Component

/-! ## Parts of documents -/

theorem Yaml.FilledFields.given (key : String) (hkey : key ≠ "") (o : Option String) :
    FilledFields free (Yaml.optionalText key (nonBlank o)) :=
  .optionalText hkey fun _ hs => ne_empty_of_nonBlank hs

theorem getD_nonBlank_ne_empty {o : Option String} {default : String} (h : default ≠ "") :
    (nonBlank o).getD default ≠ "" := by
  rcases ho : nonBlank o with _ | s
  · exact h
  · exact ne_empty_of_nonBlank ho

theorem Yaml.FilledFields.items {key : String} (hkey : key ≠ "") {xs : List String}
    (h : ∀ x ∈ xs, blank x = false) : FilledFields free (Yaml.unlessEmpty key xs texts) :=
  .unlessEmpty hkey (filled_texts fun x hx => ne_empty_of_not_blank (h x hx))

theorem Yaml.FilledFields.arguments {key : String} (hkey : key ≠ "") {c : Component}
    (h : c.Filled) : FilledFields free (Yaml.unlessEmpty key c.arguments table) :=
  .unlessEmpty hkey (filled_table h.arguments)

theorem Mount.filled_tree {m : Mount} (h : m.name ≠ "" ∧ m.path ≠ "" ∧ m.pathType ≠ "") :
    (m.tree g).FilledBut free := by
  obtain ⟨hname, hpath, htype⟩ := h
  have haccess : FilledFields free [if g.flatComponents then ("writable", flag m.writable)
      else ("readOnly", flag !m.writable)] := by
    split
    · exact .flag (by decide) _
    · exact .flag (by decide) _
  exact FilledFields.record ((FilledFields.text (by decide) hname).append <|
    (FilledFields.text (by decide) hpath).append <| (FilledFields.text (by decide) hpath).append <|
    haccess.append (.text (by decide) htype))

theorem Yaml.FilledFields.mounts {key : String} (hkey : key ≠ "") {c : Component} (h : c.Filled) :
    FilledFields free (Yaml.unlessEmpty key c.mounts (mountsTree g)) :=
  .unlessEmpty hkey (filledBut_list fun y hy => by
    obtain ⟨m, hm, rfl⟩ := List.mem_map.mp hy
    exact Mount.filled_tree (h.mounts m hm))

theorem Endpoint.host_ne_empty {address : String} {d : UInt16} {e : Endpoint}
    (h : split address d = .ok e) : e.host ≠ "" := by
  obtain ⟨-, -, -, hhost⟩ := splitBare_eq_ok_iff.mp (split_eq_ok_iff.mp h)
  simpa using hhost

theorem Endpoint.text_ne_empty (e : Endpoint) : e.text ≠ "" := by
  unfold text chars
  split <;> simp

theorem Endpoint.filled_tree {e : Endpoint} (h : e.host ≠ "") : e.tree.FilledBut free :=
  FilledFields.record ((FilledFields.text (by decide) h).append
    (.single (by decide) (filledBut_number _)))

theorem Parameters.host_ne_empty {e : Endpoint} (h : p.advertised = .ok e) : e.host ≠ "" := by
  unfold advertised at h
  split at h
  · cases h
  · exact Endpoint.host_ne_empty h

theorem Parameters.canonical_ne_empty {address t : String} (h : canonical address = .ok t) :
    t ≠ "" := by
  obtain ⟨e, -, rfl⟩ := Results.map_eq_ok_iff.mp h
  exact e.text_ne_empty

theorem Etcd.filled_tree (h : p.Filled) : (Etcd.of p.etcd).tree.FilledBut free := by
  unfold Etcd.of
  split
  · have hendpoints : FilledFields (fun path => free (.field "external" :: path))
        [("endpoints", texts p.etcd.endpoints)] :=
      .single (by decide) (filled_texts fun x hx => ne_empty_of_not_blank (h.endpoints x hx))
    exact FilledFields.record (.single (by decide) (FilledFields.record
      (((hendpoints.append (.given _ (by decide) _)).append (.given _ (by decide) _)).append
        (.given _ (by decide) _))))
  · exact FilledFields.record (.single (by decide) (FilledFields.record
      (.text (by decide) (getD_nonBlank_ne_empty (by decide)))))

/-! ## Registration -/

/-- A taint has an effect; its key is empty when it has none. -/
theorem Taint.filledBut_tree {t : Taint} {spec : String} (h : parse spec = .ok t)
    (hkey : t.key = "" → free [.field "key"]) : t.tree.FilledBut free := by
  have hvalue : FilledFields free (if t.value = "" then [] else [("value", text t.value)]) := by
    split
    next => exact .none_of
    next hne => exact .text (by decide) hne
  have heffect : t.effect ≠ "" := (parse_eq_ok_iff.mp h).effect_ne_empty
  exact FilledFields.record (((FilledFields.single (by decide)
    (filledBut_text_iff.mpr hkey)).append hvalue).append (.text (by decide) heffect))

/-- The place of a taint's key in the document of a node, where the taint has none. -/
def Taint.IsUnnamed (ts : List Taint) (path : List Step) : Prop :=
  ∃ (i : Nat) (t : Taint), ts[i]? = some t ∧ t.key = "" ∧
    path = [.field "nodeRegistration", .field "taints", .item i, .field "key"]

theorem Taint.not_isUnnamed {ts : List Taint} (h : ∀ t ∈ ts, t.key ≠ "") (path : List Step) :
    ¬IsUnnamed ts path := by
  rintro ⟨i, t, ht, hkey, -⟩
  exact h t (List.mem_of_getElem? ht) hkey

theorem Yaml.FilledFields.registration (h : p.Filled) : FilledFields (Taint.IsUnnamed p.taints)
    [("nodeRegistration", (NodeRegistration.of p).tree)] := by
  have htaints : FilledFields
      (fun path => Taint.IsUnnamed p.taints (.field "nodeRegistration" :: path))
      [("taints", list (p.taints.map Taint.tree))] := by
    refine .single (by decide) (filledBut_list_iff.mpr fun i y hy => ?_)
    rw [List.getElem?_map, Option.map_eq_some_iff] at hy
    obtain ⟨t, ht, rfl⟩ := hy
    obtain ⟨spec, hspec⟩ := h.taints t (List.mem_of_getElem? ht)
    exact Taint.filledBut_tree hspec fun hkey => ⟨i, t, ht, hkey, rfl⟩
  have hsocket : FilledFields
      (fun path => Taint.IsUnnamed p.taints (.field "nodeRegistration" :: path))
      [("criSocket", .text p.effectiveCriSocket)] :=
    .text (by decide) (getD_nonBlank_ne_empty (by decide))
  have hlabels : FilledArguments (argument "node-labels"
      ((nonBlank p.nodePool).map fun pool => "node-pool=" ++ pool)) :=
    .argument (by decide) fun s hs => by
      obtain ⟨pool, -, rfl⟩ := Option.map_eq_some_iff.mp hs
      simp
  have harguments : FilledArguments (NodeRegistration.of p).kubeletArguments :=
    .ofList ((FilledArguments.given _ (by decide) p.cloudProvider).append hlabels)
  exact .single (by decide) (FilledFields.record
    (((FilledFields.given "name" (by decide) p.nodeName).append (hsocket.append htaints)).append
      (.unlessEmpty (by decide) (filled_table harguments))))

/-- The empty key of a taint is there, in a document that registers the node. -/
theorem Taint.IsUnnamed.mem_places {document : Yaml}
    (hdocument : document.field? "nodeRegistration" = some (NodeRegistration.of p).tree)
    {path : List Step} (h : IsUnnamed p.taints path) : ⟨path, text ""⟩ ∈ document.places := by
  obtain ⟨i, t, ht, hkey, rfl⟩ := h
  have hfield : ("key", text "") ∈ t.tree.fields := by simp [Taint.tree, fields, hkey]
  have hempty : ⟨[], text ""⟩ ∈ (text "").places := List.mem_singleton_self _
  have hplace : ⟨[.field "key"], text ""⟩ ∈ t.tree.places := mem_places_of_field hfield hempty
  have hitem : (p.taints.map Taint.tree)[i]? = some t.tree := by simp [ht]
  have htaints :
      ("taints", list (p.taints.map Taint.tree)) ∈ (NodeRegistration.of p).tree.fields := by
    simp [NodeRegistration.tree, NodeRegistration.of, fields]
  exact mem_places_of_field (mem_fields_of_field? hdocument)
    (mem_places_of_field htaints (mem_places_of_item hitem hplace))

/-! ## Documents -/

theorem Yaml.FilledFields.certificateKey (p : Parameters) :
    FilledFields free (Yaml.optionalText "certificateKey" (p.usableCertificateKey g)) := by
  unfold Parameters.usableCertificateKey
  split
  · exact .given _ (by decide) _
  · exact .none_of

theorem Generation.apiVersion_ne_empty (g : Generation) : g.apiVersion ≠ "" := by
  cases g <;> decide

theorem InitDocument.filledBut_tree (h : p.Filled) {d : InitDocument}
    (hd : InitDocument.of g p = .ok d) : (d.tree g).FilledBut (Taint.IsUnnamed p.taints) := by
  obtain ⟨advertised, hadvertised, hd⟩ := Results.bind_eq_ok_iff.mp hd
  obtain ⟨token, htoken, hd⟩ := Results.bind_eq_ok_iff.mp hd
  cases hd
  have htokens : FilledFields (Taint.IsUnnamed p.taints) (optional "bootstrapTokens"
      (token.map fun t => list [record [("token", text t)]])) :=
    .optional (by decide) fun y hy => by
      obtain ⟨t, ht, rfl⟩ := Option.map_eq_some_iff.mp hy
      rw [Token.eq_of_check htoken] at ht
      exact filledBut_list (List.forall_mem_singleton.mpr
        (FilledFields.record (.text (by decide) (ne_empty_of_nonBlank ht))))
  have hendpoint : FilledFields (Taint.IsUnnamed p.taints) [(g.advertisedKey, advertised.tree)] :=
    .single (by cases g <;> decide) (Endpoint.filled_tree (Parameters.host_ne_empty hadvertised))
  exact FilledFields.record ((((FilledFields.heading g.apiVersion_ne_empty (by decide)).append
    htokens).append (hendpoint.append (.registration h))).append (.certificateKey p))

namespace ClusterDocument

variable {d : ClusterDocument}

theorem filledFields_flat (h : p.Filled) (hd : ClusterDocument.of s p = .ok d) :
    FilledFields free (d.flatFields g) := by
  obtain ⟨endpoint, -, hd⟩ := Results.bind_eq_ok_iff.mp hd
  cases hd
  have hserver := Component.filled_apiServer h s
  have hmanager := Component.filled_controllerManager p
  exact ((((FilledFields.items (by decide) h.certSans).append
    (.arguments (by decide) hserver)).append (.mounts (by decide) hserver)).append
    (.arguments (by decide) hmanager)).append (.mounts (by decide) hmanager)

theorem filledFields_grouped (h : p.Filled) (hd : ClusterDocument.of s p = .ok d) :
    FilledFields free (d.groupedFields g) := by
  obtain ⟨endpoint, -, hd⟩ := Results.bind_eq_ok_iff.mp hd
  cases hd
  have hserver := Component.filled_apiServer h s
  have hmanager := Component.filled_controllerManager p
  refine (FilledFields.unlessEmpty (by decide) (FilledFields.record ?_)).append
    (.unlessEmpty (by decide) (FilledFields.record ?_))
  · exact ((FilledFields.items (by decide) h.certSans).append
      (.arguments (by decide) hserver)).append (.mounts (by decide) hserver)
  · exact (FilledFields.arguments (by decide) hmanager).append (.mounts (by decide) hmanager)

theorem filled_tree (h : p.Filled) (hd : ClusterDocument.of s p = .ok d) : (d.tree g).Filled := by
  have hcomponents : FilledFields (fun _ => False)
      (if g.flatComponents then d.flatFields g else d.groupedFields g) := by
    split
    · exact filledFields_flat h hd
    · exact filledFields_grouped h hd
  have hshared := sharedEndpoint_of hd
  obtain ⟨endpoint, -, hd⟩ := Results.bind_eq_ok_iff.mp hd
  cases hd
  have hendpoint : FilledFields (fun _ => False)
      (optionalText "controlPlaneEndpoint" endpoint) := .optionalText (by decide) fun e he => by
    subst he
    unfold Parameters.sharedEndpoint at hshared
    split at hshared
    · cases hshared
    · obtain ⟨e', he', heq⟩ := Results.map_eq_ok_iff.mp hshared
      cases heq
      exact Parameters.canonical_ne_empty he'
  have hversion : FilledFields (fun _ => False) [("kubernetesVersion", text s.version.tag)] :=
    .text (by decide) (by simp [Version.tag])
  have hnetworks : FilledFields (fun _ => False)
      (unlessEmpty "networking" (
        optionalText "serviceSubnet" (nonBlank p.networking.serviceSubnet) ++
        optionalText "podSubnet" (nonBlank p.networking.podSubnet) ++
        optionalText "dnsDomain" (nonBlank p.networking.dnsDomain)) record) :=
    .unlessEmpty (by decide) (FilledFields.record
      (((FilledFields.given _ (by decide) _).append (.given _ (by decide) _)).append
        (.given _ (by decide) _)))
  have hname := ((FilledFields.heading g.apiVersion_ne_empty
    (by decide : "ClusterConfiguration" ≠ "")).append hversion).append
    (.given "clusterName" (by decide) p.clusterName)
  exact FilledFields.record (((((hname.append hendpoint).append
    (.given _ (by decide) p.imageRepository)).append hnetworks).append
    (.single (by decide) (Etcd.filled_tree h))).append hcomponents)

end ClusterDocument

namespace JoinDocument

variable {d : JoinDocument}

theorem endpoint_ne_empty (hd : JoinDocument.of g p = .ok d) : d.endpoint ≠ "" := by
  have hendpoint := joinEndpoint_of hd
  unfold Parameters.joinEndpoint at hendpoint
  split at hendpoint
  · cases hendpoint
  · exact Parameters.canonical_ne_empty hendpoint

theorem token_ne_empty (hd : JoinDocument.of g p = .ok d) : d.token ≠ "" := by
  obtain ⟨endpoint, -, hd⟩ := Results.bind_eq_ok_iff.mp hd
  obtain ⟨token, htoken, hd⟩ := Results.bind_eq_ok_iff.mp hd
  obtain ⟨control, -, hd⟩ := Results.bind_eq_ok_iff.mp hd
  cases hd
  obtain ⟨setting, hsetting, htoken⟩ := Results.bind_eq_ok_iff.mp htoken
  split at htoken
  · cases htoken
    exact ne_empty_of_nonBlank (Token.eq_of_check hsetting).symm
  · cases htoken

theorem caCertHashes_of (hd : JoinDocument.of g p = .ok d) :
    d.caCertHashes = p.join.caCertHashes := by
  obtain ⟨endpoint, -, hd⟩ := Results.bind_eq_ok_iff.mp hd
  obtain ⟨token, -, hd⟩ := Results.bind_eq_ok_iff.mp hd
  obtain ⟨control, -, hd⟩ := Results.bind_eq_ok_iff.mp hd
  cases hd
  rfl

/-- A further node of the control plane advertises a host. -/
theorem control_of (hd : JoinDocument.of g p = .ok d) {c : JoinControlPlane}
    (hc : d.controlPlane = some c) :
    c.advertised.host ≠ "" ∧ c.certificateKey = p.usableCertificateKey g := by
  rcases JoinControlPlane.of?_eq_ok_iff.mp (controlPlane_of hd) with ⟨-, hnone⟩ | ⟨-, e, he, hsome⟩
  · cases hc.symm.trans hnone
  · cases hc.symm.trans hsome
    exact ⟨Parameters.host_ne_empty he, rfl⟩

theorem filledFields_flat (h : p.Filled) (hd : JoinDocument.of g p = .ok d) :
    FilledFields free d.flatFields := by
  have hservers : FilledFields free [("discoveryTokenAPIServers", texts [d.endpoint])] :=
    .single (by decide)
      (filled_texts (List.forall_mem_singleton.mpr (endpoint_ne_empty hd)))
  have hhashes : FilledFields free
      (unlessEmpty "discoveryTokenCACertHashes" d.caCertHashes texts) :=
    .items (by decide) (caCertHashes_of hd ▸ h.caCertHashes)
  rw [flatFields_eq]
  refine ((((FilledFields.text (by decide) (token_ne_empty hd)).append hservers).append
    hhashes).append (.flag (by decide) _)).append ?_
  unfold flatControlFields
  split
  next c hc =>
    exact (FilledFields.flag (by decide) true).append
      (.single (by decide) (Endpoint.filled_tree (control_of hd hc).1))
  next => exact .none_of

theorem filledFields_grouped (h : p.Filled) (hd : JoinDocument.of g p = .ok d) :
    FilledFields free d.groupedFields := by
  have hhashes {free : List Step → Prop} : FilledFields free
      (unlessEmpty "caCertHashes" d.caCertHashes texts) :=
    .items (by decide) (caCertHashes_of hd ▸ h.caCertHashes)
  have hdiscovery {free : List Step → Prop} : FilledFields free d.discoveryFields :=
    (((FilledFields.text (by decide) (endpoint_ne_empty hd)).append
      (.text (by decide) (token_ne_empty hd))).append hhashes).append (.flag (by decide) _)
  rw [groupedFields_eq]
  refine (FilledFields.single (by decide) (FilledFields.record
    (.single (by decide) hdiscovery.record))).append (.optional (by decide) fun y hy => ?_)
  obtain ⟨c, hc, rfl⟩ := Option.map_eq_some_iff.mp hy
  obtain ⟨hhost, hkey⟩ := control_of hd hc
  rw [hkey]
  exact FilledFields.record ((FilledFields.single (by decide) (Endpoint.filled_tree hhost)).append
    (.certificateKey p))

theorem filledBut_tree (h : p.Filled) (hd : JoinDocument.of g p = .ok d) :
    (d.tree g).FilledBut (Taint.IsUnnamed p.taints) := by
  have hjoin : FilledFields (Taint.IsUnnamed p.taints)
      (if g.flatComponents then d.flatFields else d.groupedFields) := by
    split
    · exact filledFields_flat h hd
    · exact filledFields_grouped h hd
  rw [tree, registration_of hd]
  exact FilledFields.record (((FilledFields.heading g.apiVersion_ne_empty (by decide)).append
    hjoin).append (.registration h))

end JoinDocument

theorem KubeletDocument.filled_tree {d : KubeletDocument} (hd : KubeletDocument.of? p = some d) :
    d.tree.Filled := by
  obtain ⟨-, rfl⟩ := of?_eq_some_iff.mp hd
  have hreserved : FilledArguments (Arguments.ofList (reserved p.kubelet)) :=
    .ofList ((FilledArguments.given _ (by decide) _).append (.given _ (by decide) _))
  exact FilledFields.record (((FilledFields.heading (by decide) (by decide)).append
    (.given _ (by decide) _)).append (.unlessEmpty (by decide) (filled_table hreserved)))

namespace Rendering

theorem filled_agentPart (p : Parameters) : ∀ document ∈ agentPart p, document.Filled := by
  intro document hdocument
  obtain ⟨d, hd, rfl⟩ := Option.map_eq_some_iff.mp (Option.mem_toList.mp hdocument)
  exact KubeletDocument.filled_tree hd

/-- **Of the texts in the documents of a configuration only keys of taints are empty**, and they are
just where a taint has none: in the document of the node itself, be it a first or a further one.
Taints have effects. -/
theorem texts_filled (s : Selection) (p : Parameters) (h : p.Filled) :
    (∀ r, init s p = .ok r → ∃ first cluster agent,
      initTrees s p = .ok (first :: cluster :: agent) ∧
      r = ⟨s.generation, assemble (first :: cluster :: agent)⟩ ∧
      first.FilledBut (Taint.IsUnnamed p.taints) ∧
      (∀ path, Taint.IsUnnamed p.taints path → ⟨path, .text ""⟩ ∈ first.places) ∧
      ∀ document ∈ cluster :: agent, document.Filled) ∧
    ∀ r, join s p = .ok r → ∃ further agent,
      joinTrees s p = .ok (further :: agent) ∧
      r = ⟨s.generation, assemble (further :: agent)⟩ ∧
      further.FilledBut (Taint.IsUnnamed p.taints) ∧
      (∀ path, Taint.IsUnnamed p.taints path → ⟨path, .text ""⟩ ∈ further.places) ∧
      ∀ document ∈ agent, document.Filled := by
  constructor
  · intro r hr
    obtain ⟨trees, htrees, rfl⟩ := Results.map_eq_ok_iff.mp hr
    obtain ⟨first, cluster, hfirst, hcluster, rfl⟩ := initTrees_eq_ok_iff.mp htrees
    refine ⟨_, _, _, htrees, rfl, InitDocument.filledBut_tree h hfirst, fun path hpath => ?_,
      List.forall_mem_cons.mpr ⟨ClusterDocument.filled_tree h hcluster, filled_agentPart p⟩⟩
    exact hpath.mem_places
      (InitDocument.registration_of hfirst ▸ InitDocument.field?_registration _ first)
  · intro r hr
    obtain ⟨trees, htrees, rfl⟩ := Results.map_eq_ok_iff.mp hr
    obtain ⟨further, hfurther, rfl⟩ := joinTrees_eq_ok_iff.mp htrees
    refine ⟨_, _, htrees, rfl, JoinDocument.filledBut_tree h hfurther, fun path hpath => ?_,
      filled_agentPart p⟩
    exact hpath.mem_places
      (JoinDocument.registration_of hfurther ▸ JoinDocument.field?_registration _ further)

/-- With a taint that has a key, and an audit log in a directory, nothing is empty. -/
theorem texts_filled_of_keys :
    let s : Selection := ⟨⟨1, 16, 0⟩, .v1beta2, false⟩
    let p : Parameters :=
      { advertiseAddress := "10.0.0.5"
        taints := [⟨"dedicated", "", "NoSchedule"⟩]
        apiServer := { auditLogDir := some "/var/log/"
                       enableAdmissionPlugins := ["NodeRestriction"] }
        join := { apiServerEndpoint := some "10.0.0.1", token := some "abcdef.0123456789abcdef" } }
    p.Filled ∧
      (∃ first cluster agent, init s p = .ok ⟨.v1beta2, assemble (first :: cluster :: agent)⟩ ∧
        ∀ document ∈ first :: cluster :: agent, document.Filled) ∧
      ∃ further agent, join s p = .ok ⟨.v1beta2, assemble (further :: agent)⟩ ∧
        ∀ document ∈ further :: agent, document.Filled := by
  intro s p
  have hkeys : ∀ t ∈ p.taints, t.key ≠ "" := by decide
  have hp : p.Filled :=
    { certSans := by decide
      enableAdmissionPlugins := by decide
      disableAdmissionPlugins := by decide
      endpoints := by decide
      caCertHashes := by decide
      taints := List.forall_mem_singleton.mpr ⟨"dedicated:NoSchedule", rfl⟩
      auditLogDir := fun dir hdir => by
        obtain rfl : "/var/log/" = dir := Option.some.inj hdir
        exact Or.inr ⟨'v', by decide, by decide, by decide⟩ }
  obtain ⟨hinit, hjoin⟩ := texts_filled s p hp
  obtain ⟨r, hr⟩ : ∃ r, init s p = .ok r := Results.exists_eq_ok_iff.mpr (by decide +kernel)
  obtain ⟨r', hr'⟩ : ∃ r', join s p = .ok r' := Results.exists_eq_ok_iff.mpr (by decide +kernel)
  obtain ⟨first, cluster, agent, -, rfl, hfirst, -, hmore⟩ := hinit r hr
  obtain ⟨further, agent', -, rfl, hfurther, -, hmore'⟩ := hjoin r' hr'
  exact ⟨hp, ⟨first, cluster, agent, hr, List.forall_mem_cons.mpr
      ⟨hfirst.mono (Taint.not_isUnnamed hkeys), hmore⟩⟩,
    further, agent', hr', List.forall_mem_cons.mpr
      ⟨hfurther.mono (Taint.not_isUnnamed hkeys), hmore'⟩⟩

/-- The text `dedicated-`, which asks for the removal of a taint, is registered as a taint with an
empty key. -/
theorem texts_not_filled :
    let s : Selection := ⟨⟨1, 16, 0⟩, .v1beta2, false⟩
    let p : Parameters := { advertiseAddress := "10.0.0.5", taints := [⟨"", "", "dedicated-"⟩] }
    p.Filled ∧ Taint.parse "dedicated-" = .ok ⟨"", "", "dedicated-"⟩ ∧
      ∃ first cluster agent, init s p = .ok ⟨.v1beta2, assemble (first :: cluster :: agent)⟩ ∧
        ⟨[.field "nodeRegistration", .field "taints", .item 0, .field "key"], .text ""⟩ ∈
          first.places := by
  intro s p
  have hparse : Taint.parse "dedicated-" = .ok ⟨"", "", "dedicated-"⟩ := rfl
  have hp : p.Filled :=
    { certSans := by decide
      enableAdmissionPlugins := by decide
      disableAdmissionPlugins := by decide
      endpoints := by decide
      caCertHashes := by decide
      taints := List.forall_mem_singleton.mpr ⟨_, hparse⟩
      auditLogDir := fun dir hdir => (nomatch hdir) }
  obtain ⟨r, hr⟩ : ∃ r, init s p = .ok r := Results.exists_eq_ok_iff.mpr (by decide +kernel)
  obtain ⟨trees, htrees, rfl⟩ := Results.map_eq_ok_iff.mp hr
  obtain ⟨first, cluster, hfirst, -, rfl⟩ := initTrees_eq_ok_iff.mp htrees
  have hunnamed : Taint.IsUnnamed p.taints
      [.field "nodeRegistration", .field "taints", .item 0, .field "key"] := ⟨0, _, rfl, rfl, rfl⟩
  exact ⟨hp, hparse, _, _, _, hr, hunnamed.mem_places
    (InitDocument.registration_of hfirst ▸ InitDocument.field?_registration _ first)⟩

end Rendering

end NodeBootstrap
