import NodeBootstrap.Parameters.Read
import NodeBootstrap.Proofs.Fields
import NodeBootstrap.Proofs.Results

/-!
# Parameters from data, field by field

Data gives parameters by the names of their fields, some of which stand in a group of their own.
What is given is read, and what is not keeps its default.

* `Property.place`, `Property.given?`: where a property stands in data, and the data for it;
* `Property.IsRead`: a value that is read from the data for a property, or its default;
* `Data.readRecord_given`: a record gives each field what its last entry says, and a list what
  stands in its place;
* `Parameters.fills_readers`: every reader fills the fields of its name and no others;
* **`Parameters.isRead_of_ofData`**: what parameters from data hold.
-/

namespace NodeBootstrap

open Data

/-! ## Where a property stands -/

/-- Reads a value of a kind from data. -/
def PropertyKind.ofData : (kind : PropertyKind) → Data → Typed kind.Value
  | plain => asText
  | text => asOptionalText
  | list => asListOf asText
  | taints => asListOf Taint.ofData
  | flag => asFlag

/-- The value of the last field of a name. -/
def Data.lastField? (name : String) : List (String × Data) → Option Data
  | [] => none
  | field :: fields =>
    (lastField? name fields).or (if field.1 = name then some field.2 else none)

/-- What data gives for one of the names of a structure's fields: the last field of this name, or
the item in its place. -/
def Data.member? (names : List String) (name : String) : Data → Option Data
  | record fields => lastField? name fields
  | list items => items[names.idxOf name]?
  | _ => none

namespace Parameters

/-- The names of the fields. -/
def names : List String := (readers true).map (·.name)

/-- The names of the fields of a group. -/
def namesOfGroup : String → List String
  | "networking" => networkingReaders.map (·.name)
  | "api_server" => apiServerReaders.map (·.name)
  | "controller_manager" => controllerManagerReaders.map (·.name)
  | "kubelet" => kubeletReaders.map (·.name)
  | "etcd" => etcdReaders.map (·.name)
  | "join" => joinReaders.map (·.name)
  | _ => []

end Parameters

namespace Property

/-- The field of a property, or the group that has the field, and then the field. -/
def place : Property → String × Option String
  | advertiseAddress => ("advertise_address", none)
  | controlPlaneEndpoint => ("control_plane_endpoint", none)
  | clusterName => ("cluster_name", none)
  | nodeName => ("node_name", none)
  | criSocket => ("cri_socket", none)
  | nodePool => ("node_pool", none)
  | taints => ("taints", none)
  | serviceSubnet => ("networking", some "service_subnet")
  | podSubnet => ("networking", some "pod_subnet")
  | dnsDomain => ("networking", some "dns_domain")
  | cloudProvider => ("cloud_provider", none)
  | imageRepository => ("image_repository", none)
  | certSans => ("cert_sans", none)
  | oidcIssuerUrl => ("api_server", some "oidc_issuer_url")
  | oidcClientId => ("api_server", some "oidc_client_id")
  | kubeletCertificateAuthority => ("api_server", some "kubelet_certificate_authority")
  | enableAdmissionPlugins => ("api_server", some "enable_admission_plugins")
  | disableAdmissionPlugins => ("api_server", some "disable_admission_plugins")
  | auditLogDir => ("api_server", some "audit_log_dir")
  | encryptionProviderConfig => ("api_server", some "encryption_provider_config")
  | signingCertFile => ("controller_manager", some "signing_cert_file")
  | signingKeyFile => ("controller_manager", some "signing_key_file")
  | reservedCpu => ("kubelet", some "reserved_cpu")
  | reservedMemory => ("kubelet", some "reserved_memory")
  | cgroupDriver => ("kubelet", some "cgroup_driver")
  | etcdEndpoints => ("etcd", some "endpoints")
  | etcdCaFile => ("etcd", some "ca_file")
  | etcdCertFile => ("etcd", some "cert_file")
  | etcdKeyFile => ("etcd", some "key_file")
  | etcdDataDir => ("etcd", some "data_dir")
  | bootstrapToken => ("bootstrap_token", none)
  | certificateKey => ("certificate_key", none)
  | joinEndpoint => ("join", some "api_server_endpoint")
  | joinToken => ("join", some "token")
  | caCertHashes => ("join", some "ca_cert_hashes")
  | unsafeSkipCaVerification => ("join", some "unsafe_skip_ca_verification")
  | controlPlane => ("join", some "control_plane")

/-- The data for a property in the data for its field or its group. -/
def within (q : Property) (d : Data) : Option Data :=
  match q.place.2 with
  | none => some d
  | some field => d.member? (Parameters.namesOfGroup q.place.1) field

/-- The data for a property. -/
def given? (q : Property) (d : Data) : Option Data :=
  (d.member? Parameters.names q.place.1).bind q.within

/-- A value that is read from the data for a property, or the default where there is none. -/
def IsRead (q : Property) (x : q.Value) : Option Data → Prop
  | some d => q.kind.ofData d = .ok x
  | none => x = q.get {}

instance (P : Property → Prop) [DecidablePred P] : Decidable (∀ q, P q) :=
  decidable_of_iff (∀ q ∈ all, P q) (by simp [mem_all])

end Property

/-! ## Structures of any kind -/

namespace Data

section Structures

variable {α : Type}

/-- A reader fills the properties that stand under its name, in parameters that hold the structure
it is a reader of, and no others. -/
structure Fills (embed : α → Parameters) (owner : Property → Option String)
    (within : Property → Data → Option Data) (r : FieldReader α) : Prop where
  given {d : Data} {a a' : α} {q : Property} (h : r.read d a = .ok a')
    (hq : owner q = some r.name) : q.IsRead (q.get (embed a')) (within q d)
  kept {d : Data} {a a' : α} {q : Property} (h : r.read d a = .ok a')
    (hq : owner q ≠ some r.name) : q.get (embed a') = q.get (embed a)

variable {embed : α → Parameters} {owner : Property → Option String}
  {within : Property → Data → Option Data} {readers : List (FieldReader α)} {q : Property}
  {name : String}

/-- A reader of a single property. -/
theorem fills_of (p : Property) {store : p.Value → α → α}
    (hset : ∀ x a, embed (store x a) = p.set x (embed a))
    (howner : ∀ q, owner q = some name ↔ q = p) (hwithin : ∀ d, within p d = some d) :
    Fills embed owner within (.of name p.kind.ofData store) where
  given h hq := by
    obtain rfl := (howner _).mp hq
    obtain ⟨x, hx, rfl⟩ := Results.map_eq_ok_iff.mp h
    rw [hwithin, hset, Property.get_set_self]
    exact hx
  kept h hq := by
    obtain ⟨x, -, rfl⟩ := Results.map_eq_ok_iff.mp h
    rw [hset, Property.get_set_of_ne (mt (howner _).mpr hq)]

/-- The value of a property after a structure was filled: from the data for its name, or the one
it had before. -/
def Filled (embed : α → Parameters) (within : Property → Data → Option Data) (q : Property)
    (a a' : α) : Option Data → Prop
  | some d => q.IsRead (q.get (embed a')) (within q d)
  | none => q.get (embed a') = q.get (embed a)

/-- A field is taken by the reader of its name, or left out if there is none. -/
theorem cases_of_take {field : String × Data} {a a' : α}
    (h : FieldReader.take readers field a = .ok a') :
    (∃ r ∈ readers, r.name = field.1 ∧ r.read field.2 a = .ok a') ∨
      field.1 ∉ readers.map (·.name) ∧ a' = a := by
  unfold FieldReader.take at h
  split at h
  next r hfind =>
    exact Or.inl ⟨r, List.mem_of_find?_eq_some hfind, by simpa using List.find?_some hfind, h⟩
  next hfind =>
    cases h
    refine Or.inr ⟨fun hmem => ?_, rfl⟩
    obtain ⟨r, hr, hname⟩ := List.mem_map.mp hmem
    exact List.find?_eq_none.mp hfind r hr (by simpa using hname)

/-- Of a record the last field of a name counts. -/
theorem filled_takeAll (hfills : ∀ r ∈ readers, Fills embed owner within r)
    (hname : name ∈ readers.map (·.name)) (hq : owner q = some name)
    {fields : List (String × Data)} {a a' : α}
    (h : FieldReader.takeAll readers fields a = .ok a') :
    Filled embed within q a a' (lastField? name fields) := by
  induction fields generalizing a with
  | nil =>
    cases h
    rfl
  | cons field fields ih =>
    obtain ⟨a₁, htake, hrest⟩ := Results.bind_eq_ok_iff.mp h
    replace hrest := ih hrest
    rw [lastField?]
    rcases hlast : lastField? name fields with _ | d
    · -- the rest of the record keeps what this field has set
      rw [hlast] at hrest
      rcases cases_of_take htake with ⟨r, hr, hfield, hread⟩ | ⟨hunknown, rfl⟩
      · by_cases heq : field.1 = name
        · have hgiven := (hfills r hr).given hread (hq.trans (by rw [hfield, heq]))
          rw [if_pos heq]
          exact (congrArg (q.IsRead · _) hrest).mpr hgiven
        · have hother : owner q ≠ some r.name := by
            rw [hq, hfield]
            exact fun hsome => heq (Option.some.inj hsome).symm
          rw [if_neg heq]
          exact hrest.trans ((hfills r hr).kept hread hother)
      · have heq : field.1 ≠ name := fun heq => hunknown (heq ▸ hname)
        rw [if_neg heq]
        exact hrest
    · rw [hlast] at hrest
      exact hrest

/-- Readers of other names keep a property. -/
theorem kept_takeInOrder (hfills : ∀ r ∈ readers, Fills embed owner within r)
    (hq : owner q = some name) (hname : name ∉ readers.map (·.name)) {items rest : List Data}
    {a a' : α} (h : FieldReader.takeInOrder readers items a = .ok (a', rest)) :
    q.get (embed a') = q.get (embed a) := by
  induction readers generalizing a items with
  | nil =>
    cases h
    rfl
  | cons r readers ih =>
    rcases items with _ | ⟨d, items⟩
    · cases h
      rfl
    · obtain ⟨a₁, hread, hrest⟩ := Results.bind_eq_ok_iff.mp h
      obtain ⟨hne, hothers⟩ := not_or.mp (mt List.mem_cons.mpr hname)
      obtain ⟨hfill, hfills⟩ := List.forall_mem_cons.mp hfills
      have hother : owner q ≠ some r.name := by
        rw [hq]
        exact fun hsome => hne (Option.some.inj hsome)
      exact (ih hfills hothers hrest).trans (hfill.kept hread hother)

/-- Of a list the item in the place of a name counts. -/
theorem filled_takeInOrder (hfills : ∀ r ∈ readers, Fills embed owner within r)
    (hnodup : (readers.map (·.name)).Nodup) (hname : name ∈ readers.map (·.name))
    (hq : owner q = some name) {items rest : List Data} {a a' : α}
    (h : FieldReader.takeInOrder readers items a = .ok (a', rest)) :
    Filled embed within q a a' items[(readers.map (·.name)).idxOf name]? := by
  induction readers generalizing a items with
  | nil => cases hname
  | cons r readers ih =>
    obtain ⟨hfill, hfills⟩ := List.forall_mem_cons.mp hfills
    obtain ⟨hnotin, hnodup⟩ := List.nodup_cons.mp hnodup
    rcases items with _ | ⟨d, items⟩
    · cases h
      rfl
    · obtain ⟨a₁, hread, hrest⟩ := Results.bind_eq_ok_iff.mp h
      rw [List.map_cons]
      by_cases heq : r.name = name
      · have hkept := kept_takeInOrder hfills hq (heq ▸ hnotin) hrest
        have hgiven := hfill.given hread (hq.trans (by rw [heq]))
        rw [heq, List.idxOf_cons_self]
        exact (congrArg (q.IsRead · _) hkept).mpr hgiven
      · have hin : name ∈ readers.map (·.name) :=
          (List.mem_cons.mp hname).resolve_left (Ne.symm heq)
        have hother : owner q ≠ some r.name := by
          rw [hq]
          exact fun hsome => heq (Option.some.inj hsome).symm
        have hfilled := ih hfills hnodup hin hrest
        rw [List.idxOf_cons_ne _ heq]
        rcases hitem : items[(readers.map (·.name)).idxOf name]? with _ | d'
        · rw [hitem] at hfilled
          rw [List.getElem?_cons_succ, hitem]
          exact hfilled.trans (hfill.kept hread hother)
        · rw [hitem] at hfilled
          rw [List.getElem?_cons_succ, hitem]
          exact hfilled

/-- A structure whose properties had their defaults gives each property what is read from the data
for it, or its default. -/
theorem readRecord_given (hfills : ∀ r ∈ readers, Fills embed owner within r)
    (hnodup : (readers.map (·.name)).Nodup) (hname : name ∈ readers.map (·.name))
    (hq : owner q = some name) {extra : Bool} {start a : α} {d : Data}
    (hstart : q.get (embed start) = q.get {}) (h : readRecord readers extra start d = .ok a) :
    q.IsRead (q.get (embed a)) ((d.member? (readers.map (·.name)) name).bind (within q)) := by
  have hfilled : Filled embed within q start a (d.member? (readers.map (·.name)) name) := by
    cases d with
    | record fields => exact filled_takeAll hfills hname hq h
    | list items =>
      obtain ⟨⟨a', rest⟩, htake, hrest⟩ := Results.bind_eq_ok_iff.mp h
      dsimp only at hrest
      split at hrest
      · cases hrest
        exact filled_takeInOrder hfills hnodup hname hq htake
      · cases hrest
    | _ => cases h
  rcases hmember : d.member? (readers.map (·.name)) name with _ | d'
  · rw [hmember] at hfilled ⊢
    exact hfilled.trans hstart
  · rw [hmember] at hfilled ⊢
    exact hfilled

end Structures

end Data

/-! ## The structures of parameters -/

namespace Parameters

/-- The name of a property's field in a group. -/
def fieldOf (group : String) (q : Property) : Option String :=
  if q.place.1 = group then q.place.2 else none

/-- A structure in a group, filled field by field. -/
def FillsGroup {α : Type} (group : String) (embed : α → Parameters)
    (readers : List (FieldReader α)) : Prop :=
  ∀ r ∈ readers, Fills embed (fieldOf group) (fun _ d => some d) r

theorem fills_networking :
    FillsGroup "networking" (fun g => { networking := g }) networkingReaders := by
  simp only [FillsGroup, networkingReaders, List.forall_mem_cons, List.not_mem_nil,
    false_imp_iff, implies_true, and_true]
  exact ⟨fills_of .serviceSubnet (fun _ _ => rfl) (by decide) fun _ => rfl,
    fills_of .podSubnet (fun _ _ => rfl) (by decide) fun _ => rfl,
    fills_of .dnsDomain (fun _ _ => rfl) (by decide) fun _ => rfl⟩

theorem fills_apiServer :
    FillsGroup "api_server" (fun g => { apiServer := g }) apiServerReaders := by
  simp only [FillsGroup, apiServerReaders, List.forall_mem_cons, List.not_mem_nil,
    false_imp_iff, implies_true, and_true]
  exact ⟨fills_of .oidcIssuerUrl (fun _ _ => rfl) (by decide) fun _ => rfl,
    fills_of .oidcClientId (fun _ _ => rfl) (by decide) fun _ => rfl,
    fills_of .kubeletCertificateAuthority (fun _ _ => rfl) (by decide) fun _ => rfl,
    fills_of .enableAdmissionPlugins (fun _ _ => rfl) (by decide) fun _ => rfl,
    fills_of .disableAdmissionPlugins (fun _ _ => rfl) (by decide) fun _ => rfl,
    fills_of .auditLogDir (fun _ _ => rfl) (by decide) fun _ => rfl,
    fills_of .encryptionProviderConfig (fun _ _ => rfl) (by decide) fun _ => rfl⟩

theorem fills_controllerManager :
    FillsGroup "controller_manager" (fun g => { controllerManager := g })
      controllerManagerReaders := by
  simp only [FillsGroup, controllerManagerReaders, List.forall_mem_cons, List.not_mem_nil,
    false_imp_iff, implies_true, and_true]
  exact ⟨fills_of .signingCertFile (fun _ _ => rfl) (by decide) fun _ => rfl,
    fills_of .signingKeyFile (fun _ _ => rfl) (by decide) fun _ => rfl⟩

theorem fills_kubelet :
    FillsGroup "kubelet" (fun g => { kubelet := g }) kubeletReaders := by
  simp only [FillsGroup, kubeletReaders, List.forall_mem_cons, List.not_mem_nil,
    false_imp_iff, implies_true, and_true]
  exact ⟨fills_of .reservedCpu (fun _ _ => rfl) (by decide) fun _ => rfl,
    fills_of .reservedMemory (fun _ _ => rfl) (by decide) fun _ => rfl,
    fills_of .cgroupDriver (fun _ _ => rfl) (by decide) fun _ => rfl⟩

theorem fills_etcd :
    FillsGroup "etcd" (fun g => { etcd := g }) etcdReaders := by
  simp only [FillsGroup, etcdReaders, List.forall_mem_cons, List.not_mem_nil,
    false_imp_iff, implies_true, and_true]
  exact ⟨fills_of .etcdEndpoints (fun _ _ => rfl) (by decide) fun _ => rfl,
    fills_of .etcdCaFile (fun _ _ => rfl) (by decide) fun _ => rfl,
    fills_of .etcdCertFile (fun _ _ => rfl) (by decide) fun _ => rfl,
    fills_of .etcdKeyFile (fun _ _ => rfl) (by decide) fun _ => rfl,
    fills_of .etcdDataDir (fun _ _ => rfl) (by decide) fun _ => rfl⟩

theorem fills_join :
    FillsGroup "join" (fun g => { join := g }) joinReaders := by
  simp only [FillsGroup, joinReaders, List.forall_mem_cons, List.not_mem_nil,
    false_imp_iff, implies_true, and_true]
  exact ⟨fills_of .joinEndpoint (fun _ _ => rfl) (by decide) fun _ => rfl,
    fills_of .joinToken (fun _ _ => rfl) (by decide) fun _ => rfl,
    fills_of .caCertHashes (fun _ _ => rfl) (by decide) fun _ => rfl,
    fills_of .unsafeSkipCaVerification (fun _ _ => rfl) (by decide) fun _ => rfl,
    fills_of .controlPlane (fun _ _ => rfl) (by decide) fun _ => rfl⟩

/-- The reader of a whole group. -/
theorem fills_of_group {α : Type} {group : String} {embed : α → Parameters}
    {readers : List (FieldReader α)} (hfills : FillsGroup group embed readers)
    (hnodup : (readers.map (·.name)).Nodup) (hnames : readers.map (·.name) = namesOfGroup group)
    (hinside : ∀ q : Property, q.place.1 = group → ∃ field ∈ namesOfGroup group,
      q.place.2 = some field)
    {extra : Bool} {start : α} (hstart : embed start = {}) {store : α → Parameters → Parameters}
    (hstore : ∀ x p, store x p =
      .ofValues fun q => if q.place.1 = group then q.get (embed x) else q.get p) :
    Fills id (fun q => some q.place.1) Property.within
      (.of group (readRecord readers extra start) store) where
  given {d a a' q} h hq := by
    have hgroup : q.place.1 = group := Option.some.inj hq
    obtain ⟨field, hfield, hplace⟩ := hinside q hgroup
    obtain ⟨x, hx, rfl⟩ := Results.map_eq_ok_iff.mp h
    have hgiven := readRecord_given hfills hnodup (hnames ▸ hfield)
      (show fieldOf group q = some field by rw [fieldOf, if_pos hgroup, hplace])
      (congrArg q.get hstart) hx
    rw [Option.bind_fun_some, hnames] at hgiven
    rw [hstore, id, Property.get_ofValues, if_pos hgroup]
    simp only [Property.within, hplace, hgroup]
    exact hgiven
  kept {d a a' q} h hq := by
    obtain ⟨x, -, rfl⟩ := Results.map_eq_ok_iff.mp h
    have hother : q.place.1 ≠ group := fun hgroup => hq (congrArg some hgroup)
    rw [hstore, id, Property.get_ofValues, if_neg hother, id]

/-- Every reader fills the fields of its name and no others. -/
theorem fills_readers (extra : Bool) : ∀ r ∈ readers extra,
    Fills id (fun q => some q.place.1) Property.within r := by
  simp only [readers, List.forall_mem_cons, List.not_mem_nil, false_imp_iff, implies_true, and_true]
  exact ⟨fills_of .advertiseAddress (fun _ _ => rfl) (by decide) fun _ => rfl,
    fills_of .controlPlaneEndpoint (fun _ _ => rfl) (by decide) fun _ => rfl,
    fills_of .clusterName (fun _ _ => rfl) (by decide) fun _ => rfl,
    fills_of .nodeName (fun _ _ => rfl) (by decide) fun _ => rfl,
    fills_of .criSocket (fun _ _ => rfl) (by decide) fun _ => rfl,
    fills_of_group fills_networking (by decide) rfl (by decide) rfl fun _ _ => rfl,
    fills_of .cloudProvider (fun _ _ => rfl) (by decide) fun _ => rfl,
    fills_of .nodePool (fun _ _ => rfl) (by decide) fun _ => rfl,
    fills_of .imageRepository (fun _ _ => rfl) (by decide) fun _ => rfl,
    fills_of .certSans (fun _ _ => rfl) (by decide) fun _ => rfl,
    fills_of .taints (fun _ _ => rfl) (by decide) fun _ => rfl,
    fills_of_group fills_apiServer (by decide) rfl (by decide) rfl fun _ _ => rfl,
    fills_of_group fills_controllerManager (by decide) rfl (by decide) rfl fun _ _ => rfl,
    fills_of_group fills_kubelet (by decide) rfl (by decide) rfl fun _ _ => rfl,
    fills_of_group fills_etcd (by decide) rfl (by decide) rfl fun _ _ => rfl,
    fills_of .bootstrapToken (fun _ _ => rfl) (by decide) fun _ => rfl,
    fills_of .certificateKey (fun _ _ => rfl) (by decide) fun _ => rfl,
    fills_of_group fills_join (by decide) rfl (by decide) rfl fun _ _ => rfl⟩

/-- **Parameters from data hold what is read from the data for each property, or its default.** -/
theorem isRead_of_ofData {extra : Bool} {d : Data} {p : Parameters} (h : ofData extra d = .ok p)
    (q : Property) : q.IsRead (q.get p) (q.given? d) := by
  have hnames : (readers extra).map (·.name) = names := rfl
  have hname : q.place.1 ∈ names := by revert q; decide
  have hgiven := readRecord_given (fills_readers extra) (hnames ▸ by decide) (hnames ▸ hname) rfl
    rfl h
  exact hgiven

end Parameters

end NodeBootstrap
