import NodeBootstrap.Proofs.Contents
import NodeBootstrap.Proofs.Digits
import NodeBootstrap.Proofs.Documents
import NodeBootstrap.Proofs.TidyTrees

/-!
# Documents are tidy

Every document of a configuration is a record with keys that stand as they are. Its last text is a
setting without the blanks around it, a text of this library, a number, or one of the listed texts.

* `Yaml.IsTidyRecord`: a tidy record with at least one field;
* `NodeRegistration.tidy_tree`, `Component.tidy_apiServer`, `Etcd.tidy_tree`, …: the parts of
  documents;
* **`Rendering.tidy_initTrees`**, **`Rendering.tidy_joinTrees`**: the documents of the
  configurations.
-/

namespace NodeBootstrap

open Text Yaml

/-! ## Arguments -/

section Settings

variable {p : Parameters} {ends : Char → Prop}

theorem tidyArguments_argument {name : String} {value : Option String} (hname : isKey name = true)
    (h : ∀ s, value = some s → Closes ends s) : TidyArguments ends (argument name value) :=
  forall_mem_argument.mpr fun v hv => ⟨hname, h v hv⟩

theorem Closing.tidyArguments_listArgument (h : Closing p ends) {name : String}
    {values : List String} (hname : isKey name = true) (hvalues : ∀ v ∈ values, v ∈ p.listed) :
    TidyArguments ends (listArgument name values) :=
  forall_mem_listArgument.mpr fun _ =>
    ⟨hname, h.closes_glue fun w hw => h.listed w (hvalues w hw)⟩

theorem tidyArguments_ofList {pairs : List (String × String)} (h : TidyArguments ends pairs) :
    TidyArguments ends (Arguments.ofList pairs) :=
  fun a ha => h a (Arguments.mem_of_mem_ofList ha)

/-- A component whose arguments are tidy and whose mounts end as demanded. -/
structure Component.Tidy (ends : Char → Prop) (c : Component) : Prop where
  arguments : TidyArguments ends c.arguments
  mounts : ∀ m ∈ c.mounts, Closes ends m.pathType

namespace Component

theorem Tidy.together {parts : List Component} (h : ∀ c ∈ parts, c.Tidy ends) :
    (together parts).Tidy ends := by
  obtain ⟨harguments, hmounts⟩ :=
    forall_mem_together fun c hc => And.intro (h c hc).arguments (h c hc).mounts
  exact ⟨harguments, hmounts⟩

theorem Tidy.of_arguments {m : Arguments} (h : TidyArguments ends m) :
    Tidy ends { arguments := m } := ⟨h, by simp⟩

theorem tidy_ofProvider (h : Closing p ends) : (ofProvider p.provider).Tidy ends := by
  rcases hname : p.provider with _ | name
  · exact .of_arguments .none
  · have hvalue : Closes ends name := h.of_nonBlank hname
    have hfile : Closes ends HostPath.cloudConfig := h.closes_fixed (by decide)
    unfold ofProvider
    dsimp only
    split
    · exact ⟨.cons (by decide) hvalue (.cons (by decide) hfile .none),
        List.forall_mem_singleton.mpr (h.closes_fixed (by decide))⟩
    · exact .of_arguments (.cons (by decide) hvalue .none)

theorem tidy_ofAuditLog (h : Closing p ends) (dir : Option String) :
    (ofAuditLog dir).Tidy ends := by
  rcases dir with _ | d
  · exact .of_arguments .none
  · have hlog : Closes ends (withoutSlashes d ++ "/audit.log") :=
      Closing.closes_append (h.closes_fixed (by decide)) (by decide)
    refine ⟨.cons (by decide) hlog <| .cons (by decide) (h.closes_fixed (by decide)) <|
      .cons (by decide) (h.closes_fixed (by decide)) <|
      .cons (by decide) (h.closes_fixed (by decide)) <|
      .cons (by decide) (h.closes_fixed (by decide)) .none, ?_⟩
    exact List.forall_mem_cons.mpr ⟨h.closes_fixed (s := "DirectoryOrCreate") (by decide),
      List.forall_mem_singleton.mpr (h.closes_fixed (by decide))⟩

theorem tidy_ofEncryption (h : Closing p ends) (s : Selection) {path : Option String}
    (hpath : ∀ t, path = some t → Closes ends t) :
    (ofEncryption s.encryptionFlag path).Tidy ends := by
  have hflag : isKey s.encryptionFlag = true := by
    unfold Selection.encryptionFlag
    split
    · decide
    · decide
  rcases path with _ | t
  · exact .of_arguments .none
  · exact ⟨.cons hflag (hpath t rfl) .none,
      List.forall_mem_singleton.mpr (h.closes_fixed (s := "File") (by decide))⟩

theorem tidy_apiServer (h : Closing p ends) (s : Selection) : (apiServer s p).Tidy ends := by
  have hgiven (name : String) (o : Option String) (hname : isKey name = true) :
      TidyArguments ends (argument name (nonBlank o)) :=
    tidyArguments_argument hname fun t ht => h.of_nonBlank ht
  have henable : TidyArguments ends
      (listArgument "enable-admission-plugins" p.apiServer.enableAdmissionPlugins) :=
    h.tidyArguments_listArgument (by decide) fun v hv => by simp [Parameters.listed, hv]
  have hdisable : TidyArguments ends
      (listArgument "disable-admission-plugins" p.apiServer.disableAdmissionPlugins) :=
    h.tidyArguments_listArgument (by decide) fun v hv => by simp [Parameters.listed, hv]
  refine Tidy.together (List.forall_mem_cons.mpr ⟨tidy_ofProvider h,
    List.forall_mem_cons.mpr ⟨?_, List.forall_mem_cons.mpr ⟨tidy_ofAuditLog h _,
      List.forall_mem_singleton.mpr (tidy_ofEncryption h s fun t ht => h.of_nonBlank ht)⟩⟩⟩)
  exact .of_arguments (((((hgiven _ _ (by decide)).append (hgiven _ _ (by decide))).append
    (hgiven _ _ (by decide))).append henable).append hdisable)

theorem tidy_controllerManager (h : Closing p ends) : (controllerManager p).Tidy ends := by
  have hgiven (name : String) (o : Option String) (hname : isKey name = true) :
      TidyArguments ends (argument name (nonBlank o)) :=
    tidyArguments_argument hname fun t ht => h.of_nonBlank ht
  exact Tidy.together (List.forall_mem_cons.mpr ⟨tidy_ofProvider h,
    List.forall_mem_singleton.mpr
      (.of_arguments ((hgiven _ _ (by decide)).append (hgiven _ _ (by decide))))⟩)

end Component

/-! ## Numbers -/

/-- A text that ends with a number. -/
theorem Closing.closes_digits (h : Closing p ends) (front : List Char) (n : Nat) :
    Closes ends (String.ofList (front ++ Decimal.digits n)) := by
  intro c hc
  rw [String.toList_ofList, List.getLast?_append,
    List.getLast?_eq_some_getLast (Decimal.digits_ne_nil n)] at hc
  cases hc
  have hdigit := Decimal.isDigit_of_mem_digits (List.getLast_mem (Decimal.digits_ne_nil n))
  exact h.solid _ (Decimal.not_isBlank_of_isDigit hdigit)

theorem Closing.closes_version (h : Closing p ends) (v : Version) : Closes ends v.tag := by
  have heq : v.tag = String.ofList (('v' :: Decimal.digits v.major.toNat ++ '.' ::
      Decimal.digits v.minor.toNat ++ ['.']) ++ Decimal.digits v.patch.toNat) := by
    simp [Version.tag, Version.chars]
  rw [heq]
  exact h.closes_digits _ _

theorem Closing.closes_endpoint (h : Closing p ends) (e : Endpoint) : Closes ends e.text := by
  obtain ⟨front, hfront⟩ : ∃ front, e.chars = front ++ Decimal.digits e.port.toNat := by
    unfold Endpoint.chars Endpoint.portChars
    split
    · exact ⟨'[' :: e.host.toList ++ [']', ':'], by simp⟩
    · exact ⟨e.host.toList ++ [':'], by simp⟩
  rw [Endpoint.text, hfront]
  exact h.closes_digits _ _

theorem Closing.closes_canonical (h : Closing p ends) {t address : String}
    (ht : Parameters.canonical t = .ok address) : Closes ends address := by
  obtain ⟨e, -, rfl⟩ := Results.map_eq_ok_iff.mp ht
  exact h.closes_endpoint e

/-! ## Parts of documents -/

variable {g : Generation}

theorem Closing.tidy_fixed (h : Closing p ends) {s : String}
    (hs : (s.toList.getLast?.map isBlank) = some false) : (text s).Tidy ends := h.closes_fixed hs

theorem Closing.allTidy_heading (h : Closing p ends) (apiVersion kind : String)
    (hversion : (apiVersion.toList.getLast?.map isBlank) = some false)
    (hkind : (kind.toList.getLast?.map isBlank) = some false) :
    AllTidy ends (heading apiVersion kind) :=
  (allTidy_single (by decide) (h.tidy_fixed hversion)).append
    (allTidy_single (by decide) (h.tidy_fixed hkind))

theorem Closing.allTidy_given (h : Closing p ends) (key : String) (hkey : isKey key = true)
    (o : Option String) : AllTidy ends (optionalText key (nonBlank o)) :=
  allTidy_optionalText hkey fun _ hs => h.of_nonBlank hs

theorem Closing.closes_getD (h : Closing p ends) {o : Option String} {default : String}
    (hdefault : (default.toList.getLast?.map isBlank) = some false) :
    Closes ends ((nonBlank o).getD default) := by
  rcases hs : nonBlank o with _ | s
  · exact h.closes_fixed hdefault
  · exact h.of_nonBlank hs

theorem Endpoint.tidy_tree (e : Endpoint) : e.tree.Tidy ends :=
  tidy_record_append (allTidy_single (by decide) (tidy_text_any e.host))
    (allTidy_single (by decide) True.intro) (by simp)

theorem Taint.tidy_tree {t : Taint} (h : Closes ends t.effect) : t.tree.Tidy ends := by
  have hvalue : AllTidy (fun _ => True)
      (if t.value = "" then [] else [("value", text t.value)]) := by
    split
    · exact allTidy_nil
    · exact allTidy_single (by decide) (tidy_text_any t.value)
  exact tidy_record_append
    ((allTidy_single (by decide) (tidy_text_any t.key)).append hvalue)
    (allTidy_single (by decide) h) (by simp)

theorem Mount.tidy_tree {m : Mount} (h : Closes ends m.pathType) : (m.tree g).Tidy ends := by
  have haccess : AllTidy (fun _ => True) [if g.flatComponents then ("writable", flag m.writable)
      else ("readOnly", flag !m.writable)] := by
    split
    · exact allTidy_flag (by decide) _
    · exact allTidy_flag (by decide) _
  have hplaces : AllTidy (fun _ => True) [("name", text m.name), ("hostPath", text m.path),
      ("mountPath", text m.path)] :=
    (allTidy_single (by decide) (tidy_text_any m.name)).append
      ((allTidy_single (by decide) (tidy_text_any m.path)).append
        (allTidy_single (by decide) (tidy_text_any m.path)))
  exact tidy_record_append (hplaces.append haccess) (allTidy_single (by decide) h) (by simp)

theorem Component.Tidy.mountsTree {c : Component} (h : c.Tidy ends) :
    (mountsTree g c.mounts).Tidy ends := tidy_list fun y hy => by
  obtain ⟨m, hm, rfl⟩ := List.mem_map.mp hy
  exact Mount.tidy_tree (h.mounts m hm)

theorem NodeRegistration.tidy_tree (h : Closing p ends) :
    (NodeRegistration.of p).tree.Tidy ends := by
  have hsocket : AllTidy ends [("criSocket", text p.effectiveCriSocket)] :=
    allTidy_single (by decide) (h.closes_getD (by decide))
  have htaints : AllTidy ends [("taints", list (p.taints.map Taint.tree))] := by
    refine allTidy_single (by decide) (tidy_list fun y hy => ?_)
    obtain ⟨t, ht, rfl⟩ := List.mem_map.mp hy
    refine Taint.tidy_tree (h.listed t.effect ?_)
    simp only [Parameters.listed, List.mem_append, List.mem_map]
    exact Or.inl (Or.inl (Or.inl (Or.inl (Or.inr ⟨t, ht, rfl⟩))))
  have hlabels : TidyArguments ends (argument "node-labels"
      ((nonBlank p.nodePool).map fun pool => "node-pool=" ++ pool)) :=
    tidyArguments_argument (by decide) fun s hs => by
      obtain ⟨pool, hpool, rfl⟩ := Option.map_eq_some_iff.mp hs
      exact Closing.closes_append (h.of_nonBlank hpool) (ne_empty_of_nonBlank hpool)
  have harguments : TidyArguments ends (NodeRegistration.of p).kubeletArguments :=
    tidyArguments_ofList ((tidyArguments_argument (by decide)
      fun s hs => h.of_nonBlank hs).append hlabels)
  have hname := h.allTidy_given "name" (by decide) p.nodeName
  exact tidy_record ((hname.append (hsocket.append htaints)).append
    (allTidy_unlessEmpty (by decide) (tidy_table harguments)))

theorem Closing.tidy_listed (h : Closing p ends) {xs : List String} (hxs : ∀ x ∈ xs, x ∈ p.listed) :
    (texts xs).Tidy ends := tidy_texts fun x hx => h.listed x (hxs x hx)

theorem Etcd.tidy_tree (h : Closing p ends) : (Etcd.of p.etcd).tree.Tidy ends := by
  cases he : p.etcd.isExternal with
  | true =>
    rw [Etcd.of, he]
    have hendpoints : AllTidy ends [("endpoints", texts p.etcd.endpoints)] :=
      allTidy_single (by decide) (h.tidy_listed fun x hx => by simp [Parameters.listed, hx])
    exact tidy_record (allTidy_single (by decide) (tidy_record
      (((hendpoints.append (h.allTidy_given _ (by decide) p.etcd.caFile)).append
        (h.allTidy_given _ (by decide) p.etcd.certFile)).append
        (h.allTidy_given _ (by decide) p.etcd.keyFile))))
  | false =>
    rw [Etcd.of, he]
    exact tidy_record (allTidy_single (by decide)
      (tidy_record (allTidy_single (by decide) (h.closes_getD (by decide)))))

/-! ## Documents -/

/-- A record with at least one field, all of its fields tidy. -/
def Yaml.IsTidyRecord (ends : Char → Prop) (y : Yaml) : Prop :=
  ∃ f fs, y = record (f :: fs) ∧ y.Tidy ends

theorem Generation.closes_apiVersion (g : Generation) :
    (g.apiVersion.toList.getLast?.map isBlank) = some false := by
  cases g <;> decide

theorem Parameters.allTidy_certificateKey (h : Closing p ends) :
    AllTidy ends (optionalText "certificateKey" (p.usableCertificateKey g)) := by
  unfold usableCertificateKey
  split
  · exact h.allTidy_given _ (by decide) _
  · exact allTidy_nil

theorem allTidy_registration (h : Closing p ends) :
    AllTidy ends [("nodeRegistration", (NodeRegistration.of p).tree)] :=
  allTidy_single (by decide) (NodeRegistration.tidy_tree h)

/-- The token of a first node is the setting itself. -/
theorem Token.eq_of_check {field : String} {setting token : Option String}
    (h : check field setting = .ok token) : token = setting := by
  unfold check at h
  split at h
  · cases h
    rfl
  · split at h
    · cases h
      rfl
    · cases h

theorem InitDocument.tidy_tree (h : Closing p ends) {d : InitDocument}
    (hd : InitDocument.of g p = .ok d) : (d.tree g).IsTidyRecord ends := by
  obtain ⟨advertised, -, hd⟩ := Results.bind_eq_ok_iff.mp hd
  obtain ⟨token, htoken, hd⟩ := Results.bind_eq_ok_iff.mp hd
  cases hd
  have htokens : AllTidy ends (optional "bootstrapTokens"
      (token.map fun t => list [record [("token", text t)]])) :=
    allTidy_optional (by decide) fun y hy => by
      obtain ⟨t, ht, rfl⟩ := Option.map_eq_some_iff.mp hy
      rw [Token.eq_of_check htoken] at ht
      exact tidy_list (List.forall_mem_singleton.mpr
        (tidy_record (allTidy_single (by decide) (h.of_nonBlank ht))))
  have hadvertised : AllTidy ends [(g.advertisedKey, advertised.tree)] :=
    allTidy_single (by cases g <;> decide) advertised.tidy_tree
  have hheading := h.allTidy_heading _ "InitConfiguration" g.closes_apiVersion (by decide)
  exact ⟨_, _, rfl, tidy_record (((hheading.append htokens).append
    (hadvertised.append (allTidy_registration h))).append (Parameters.allTidy_certificateKey h))⟩

namespace ClusterDocument

variable {s : Selection} {d : ClusterDocument}

theorem allTidy_sans (h : Closing p ends) {key : String} (hkey : isKey key = true) :
    AllTidy ends (unlessEmpty key p.certSans texts) :=
  allTidy_unlessEmpty hkey (h.tidy_listed fun x hx => by simp [Parameters.listed, hx])

theorem allTidy_arguments {c : Component} (hc : c.Tidy ends) {key : String}
    (hkey : isKey key = true) : AllTidy ends (unlessEmpty key c.arguments table) :=
  allTidy_unlessEmpty hkey (tidy_table hc.arguments)

theorem allTidy_mounts {c : Component} (hc : c.Tidy ends) {key : String}
    (hkey : isKey key = true) : AllTidy ends (unlessEmpty key c.mounts (mountsTree g)) :=
  allTidy_unlessEmpty hkey hc.mountsTree

theorem allTidy_components (h : Closing p ends) (hd : ClusterDocument.of s p = .ok d) :
    AllTidy ends (if g.flatComponents then d.flatFields g else d.groupedFields g) := by
  obtain ⟨endpoint, -, hd⟩ := Results.bind_eq_ok_iff.mp hd
  cases hd
  have hserver := Component.tidy_apiServer h s
  have hmanager := Component.tidy_controllerManager h
  split
  · exact ((((allTidy_sans h (by decide)).append (allTidy_arguments hserver (by decide))).append
      (allTidy_mounts hserver (by decide))).append (allTidy_arguments hmanager (by decide))).append
      (allTidy_mounts hmanager (by decide))
  · refine (allTidy_unlessEmpty (by decide) (tidy_record ?_)).append
      (allTidy_unlessEmpty (by decide) (tidy_record ?_))
    · exact ((allTidy_sans h (by decide)).append (allTidy_arguments hserver (by decide))).append
        (allTidy_mounts hserver (by decide))
    · exact (allTidy_arguments hmanager (by decide)).append (allTidy_mounts hmanager (by decide))

theorem tidy_tree (h : Closing p ends) (hd : ClusterDocument.of s p = .ok d) :
    (d.tree g).IsTidyRecord ends := by
  have hcomponents := allTidy_components (g := g) h hd
  obtain ⟨endpoint, hendpoint, hd⟩ := Results.bind_eq_ok_iff.mp hd
  cases hd
  have hshared : AllTidy ends (optionalText "controlPlaneEndpoint" endpoint) :=
    allTidy_optionalText (by decide) fun e he => by
      subst he
      unfold Parameters.sharedEndpoint at hendpoint
      split at hendpoint
      · cases hendpoint
      · obtain ⟨e', he', heq⟩ := Results.map_eq_ok_iff.mp hendpoint
        cases heq
        exact h.closes_canonical he'
  have hversion : AllTidy ends [("kubernetesVersion", text s.version.tag)] :=
    allTidy_single (by decide) (h.closes_version s.version)
  have hnetworks : AllTidy ends
      (optionalText "serviceSubnet" (nonBlank p.networking.serviceSubnet) ++
      optionalText "podSubnet" (nonBlank p.networking.podSubnet) ++
      optionalText "dnsDomain" (nonBlank p.networking.dnsDomain)) :=
    ((h.allTidy_given _ (by decide) _).append (h.allTidy_given _ (by decide) _)).append
      (h.allTidy_given _ (by decide) _)
  have hheading := h.allTidy_heading _ "ClusterConfiguration" g.closes_apiVersion (by decide)
  have hname := (hheading.append hversion).append
    (h.allTidy_given "clusterName" (by decide) p.clusterName)
  have himages := (hname.append hshared).append
    (h.allTidy_given "imageRepository" (by decide) p.imageRepository)
  exact ⟨_, _, rfl, tidy_record (((himages.append
    (allTidy_unlessEmpty (by decide) (tidy_record hnetworks))).append
    (allTidy_single (by decide) (Etcd.tidy_tree h))).append hcomponents)⟩

end ClusterDocument

namespace JoinDocument

variable {d : JoinDocument}

theorem closes_endpoint_of (h : Closing p ends) {e : String} (he : p.joinEndpoint = .ok e) :
    Closes ends e := by
  unfold Parameters.joinEndpoint at he
  split at he
  · cases he
  · exact h.closes_canonical he

theorem closes_token_of (h : Closing p ends) {t : String} (ht : p.joinToken = .ok t) :
    Closes ends t := by
  obtain ⟨token, htoken, ht⟩ := Results.bind_eq_ok_iff.mp ht
  split at ht
  · cases ht
    exact h.of_nonBlank (Token.eq_of_check htoken).symm
  · cases ht

theorem allTidy_hashes (h : Closing p ends) {key : String} (hkey : isKey key = true) :
    AllTidy ends (unlessEmpty key p.join.caCertHashes texts) :=
  allTidy_unlessEmpty hkey (h.tidy_listed fun x hx => by simp [Parameters.listed, hx])

theorem allTidy_flatFields (h : Closing p ends) (hd : JoinDocument.of g p = .ok d) :
    AllTidy ends d.flatFields := by
  obtain ⟨endpoint, hendpoint, hd⟩ := Results.bind_eq_ok_iff.mp hd
  obtain ⟨token, htoken, hd⟩ := Results.bind_eq_ok_iff.mp hd
  obtain ⟨control, -, hd⟩ := Results.bind_eq_ok_iff.mp hd
  cases hd
  have hword : AllTidy ends [("token", text token)] :=
    allTidy_single (by decide) (closes_token_of h htoken)
  have hservers : AllTidy ends [("discoveryTokenAPIServers", texts [endpoint])] :=
    allTidy_single (by decide)
      (tidy_texts (List.forall_mem_singleton.mpr (closes_endpoint_of h hendpoint)))
  rw [flatFields_eq]
  refine (((hword.append hservers).append (allTidy_hashes h (by decide))).append
    (allTidy_flag (by decide) _)).append ?_
  unfold flatControlFields
  split
  · exact (allTidy_flag (by decide) true).append
      (allTidy_single (by decide) (Endpoint.tidy_tree _))
  · exact allTidy_nil

theorem allTidy_groupedFields (h : Closing p ends) (hd : JoinDocument.of g p = .ok d) :
    AllTidy ends d.groupedFields := by
  obtain ⟨endpoint, hendpoint, hd⟩ := Results.bind_eq_ok_iff.mp hd
  obtain ⟨token, htoken, hd⟩ := Results.bind_eq_ok_iff.mp hd
  obtain ⟨control, hcontrol, hd⟩ := Results.bind_eq_ok_iff.mp hd
  cases hd
  have hword : AllTidy ends [("token", text token)] :=
    allTidy_single (by decide) (closes_token_of h htoken)
  have haddress : AllTidy ends [("apiServerEndpoint", text endpoint)] :=
    allTidy_single (by decide) (closes_endpoint_of h hendpoint)
  have hhashes : AllTidy ends (unlessEmpty "caCertHashes" p.join.caCertHashes texts) :=
    allTidy_hashes h (by decide)
  have hskip : AllTidy ends [("unsafeSkipCAVerification", flag p.join.unsafeSkipCaVerification)] :=
    allTidy_flag (by decide) _
  have hbootstrap := tidy_record (((haddress.append hword).append hhashes).append hskip)
  rw [groupedFields_eq]
  refine (allTidy_single (by decide) (tidy_record (allTidy_single (by decide) hbootstrap))).append
    (allTidy_optional (by decide) fun y hy => ?_)
  obtain ⟨c, hc, rfl⟩ := Option.map_eq_some_iff.mp hy
  rcases JoinControlPlane.of?_eq_ok_iff.mp hcontrol with ⟨-, hnone⟩ | ⟨-, e, -, hsome⟩
  · cases hc.symm.trans hnone
  · cases hc.symm.trans hsome
    exact tidy_record ((allTidy_single (by decide) e.tidy_tree).append
      (Parameters.allTidy_certificateKey h))

theorem tidy_tree (h : Closing p ends) (hd : JoinDocument.of g p = .ok d) :
    (d.tree g).IsTidyRecord ends := by
  have hjoin : AllTidy ends (if g.flatComponents then d.flatFields else d.groupedFields) := by
    split
    · exact allTidy_flatFields h hd
    · exact allTidy_groupedFields h hd
  have hheading := h.allTidy_heading _ "JoinConfiguration" g.closes_apiVersion (by decide)
  obtain ⟨endpoint, -, hd⟩ := Results.bind_eq_ok_iff.mp hd
  obtain ⟨token, -, hd⟩ := Results.bind_eq_ok_iff.mp hd
  obtain ⟨control, -, hd⟩ := Results.bind_eq_ok_iff.mp hd
  cases hd
  exact ⟨_, _, rfl, tidy_record ((hheading.append hjoin).append (allTidy_registration h))⟩

end JoinDocument

theorem KubeletDocument.tidy_tree (h : Closing p ends) {d : KubeletDocument}
    (hd : KubeletDocument.of? p = some d) : d.tree.IsTidyRecord ends := by
  obtain ⟨-, rfl⟩ := of?_eq_some_iff.mp hd
  have hgiven (name : String) (o : Option String) (hname : isKey name = true) :
      TidyArguments ends (argument name (nonBlank o)) :=
    tidyArguments_argument hname fun t ht => h.of_nonBlank ht
  have hreserved : TidyArguments ends (Arguments.ofList (reserved p.kubelet)) :=
    tidyArguments_ofList ((hgiven _ _ (by decide)).append (hgiven _ _ (by decide)))
  have hheading := h.allTidy_heading "kubelet.config.k8s.io/v1beta1" "KubeletConfiguration"
    (by decide) (by decide)
  exact ⟨_, _, rfl, tidy_record ((hheading.append (h.allTidy_given _ (by decide) _)).append
    (allTidy_unlessEmpty (by decide) (tidy_table hreserved)))⟩

namespace Rendering

theorem tidy_agentPart (h : Closing p ends) : ∀ y ∈ agentPart p, y.IsTidyRecord ends := by
  intro y hy
  obtain ⟨d, hd, rfl⟩ := Option.map_eq_some_iff.mp (Option.mem_toList.mp hy)
  exact KubeletDocument.tidy_tree h hd

/-- **The documents of a first node are tidy records.** -/
theorem tidy_initTrees (h : Closing p ends) {s : Selection} {ys : List Yaml}
    (hys : initTrees s p = .ok ys) : ∀ y ∈ ys, y.IsTidyRecord ends := by
  obtain ⟨first, cluster, hfirst, hcluster, rfl⟩ := initTrees_eq_ok_iff.mp hys
  exact List.forall_mem_cons.mpr ⟨InitDocument.tidy_tree h hfirst,
    List.forall_mem_cons.mpr ⟨ClusterDocument.tidy_tree h hcluster, tidy_agentPart h⟩⟩

/-- **The documents of a further node are tidy records.** -/
theorem tidy_joinTrees (h : Closing p ends) {s : Selection} {ys : List Yaml}
    (hys : joinTrees s p = .ok ys) : ∀ y ∈ ys, y.IsTidyRecord ends := by
  obtain ⟨further, hfurther, rfl⟩ := joinTrees_eq_ok_iff.mp hys
  exact List.forall_mem_cons.mpr ⟨JoinDocument.tidy_tree h hfurther, tidy_agentPart h⟩

end Rendering

end Settings

end NodeBootstrap
