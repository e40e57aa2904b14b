import NodeBootstrap.Proofs.Contents
import NodeBootstrap.Proofs.Documents
import NodeBootstrap.Proofs.Moves
import NodeBootstrap.Proofs.Renamings

/-!
# The two layouts say the same

The first generation keeps the settings of components and of joining in the document itself, the
later ones in groups. Both layouts are rendered from the same parameters, and what the one says the
other says in other places.

* `InitDocument.renamings`, `ClusterDocument.renamings`, `JoinDocument.renamings`: where the later
  generations keep the fields of the first one;
* `certificateEntries`: what only the last generation says;
* `InitDocument.restates`, `ClusterDocument.restates`, `JoinDocument.restates`: the documents in
  both layouts;
* **`Rendering.layouts_agree`**: both layouts fail with the same failure or say the same.
-/

namespace NodeBootstrap

open Yaml
open scoped List

variable {g : Generation} {p : Parameters} {a b : Selection} {v w : Version}

/-! ## Renamings of the fields -/

/-- The first document's fields under the names of the later generations. -/
def InitDocument.renamings (b : Selection) : List Renaming :=
  [⟨"apiVersion", [.field "apiVersion"], said (text b.generation.apiVersion)⟩,
   ⟨"apiEndpoint", [.field "localAPIEndpoint"], some⟩]

/-- The shared document's fields under the names of the later generations. -/
def ClusterDocument.renamings (b : Selection) : List Renaming :=
  [⟨"apiVersion", [.field "apiVersion"], said (text b.generation.apiVersion)⟩,
   ⟨"kubernetesVersion", [.field "kubernetesVersion"], said (text b.version.tag)⟩,
   ⟨"apiServerCertSANs", [.field "apiServer", .field "certSANs"], some⟩,
   ⟨"apiServerExtraArgs", [.field "apiServer", .field "extraArgs"],
    renamed "experimental-encryption-provider-config" "encryption-provider-config"⟩,
   ⟨"apiServerExtraVolumes", [.field "apiServer", .field "extraVolumes"],
    opposed "writable" "readOnly"⟩,
   ⟨"controllerManagerExtraArgs", [.field "controllerManager", .field "extraArgs"], some⟩,
   ⟨"controllerManagerExtraVolumes", [.field "controllerManager", .field "extraVolumes"],
    opposed "writable" "readOnly"⟩]

/-- The way to the settings with which a node is discovered. -/
def discoveryWay : List Step := [.field "discovery", .field "bootstrapToken"]

/-- The joining document's fields under the names of the later generations. -/
def JoinDocument.renamings (b : Selection) : List Renaming :=
  [⟨"apiVersion", [.field "apiVersion"], said (text b.generation.apiVersion)⟩,
   ⟨"token", discoveryWay ++ [.field "token"], some⟩,
   ⟨"discoveryTokenAPIServers", discoveryWay ++ [.field "apiServerEndpoint"], unwrapped⟩,
   ⟨"discoveryTokenCACertHashes", discoveryWay ++ [.field "caCertHashes"], some⟩,
   ⟨"discoveryTokenUnsafeSkipCAVerification",
    discoveryWay ++ [.field "unsafeSkipCAVerification"], some⟩,
   ⟨"controlPlane", [.field "controlPlane"], implied⟩,
   ⟨"apiEndpoint", [.field "controlPlane", .field "localAPIEndpoint"], some⟩]

/-- What the last generation says of the certificate key, in a group to which a way leads. -/
def certificateEntries (g : Generation) (p : Parameters) (way : List Step) : List Place :=
  match g, Text.nonBlank p.certificateKey with
  | .v1beta2, some key => [⟨way ++ [.field "certificateKey"], text key⟩]
  | _, _ => []

theorem fieldEntries_certificateKey (g : Generation) (p : Parameters) (way : List Step) :
    (fieldEntries (optionalText "certificateKey" (p.usableCertificateKey g))).map
      (Place.along way) = certificateEntries g p way := by
  unfold certificateEntries
  cases g with
  | v1alpha3 => rfl
  | v1beta1 => rfl
  | v1beta2 =>
    rw [Parameters.usableCertificateKey, Generation.certificateKeys, if_pos rfl]
    rcases Text.nonBlank p.certificateKey with _ | key
    · rfl
    · rfl

theorem restated_heading {rs : List Renaming} {old new kind : String}
    (hversion : Renaming.find rs "apiVersion" =
      ⟨"apiVersion", [.field "apiVersion"], said (text new)⟩)
    (hkind : "kind" ∉ rs.map (·.key)) :
    restated rs (heading old kind) = fieldEntries (heading new kind) := by
  rw [heading, restated_cons, restated_single, hversion, restated_of_unnamed (by simpa using hkind)]
  rfl

/-! ## The first document -/

theorem InitDocument.restates (d : InitDocument) (hg : b.generation.flatComponents = false)
    (hkey : d.certificateKey = none) : Restates (renamings b)
      (certificateEntries b.generation p []) (d.tree .v1alpha3)
      ({ d with certificateKey := p.usableCertificateKey b.generation }.tree b.generation) := by
  have hadvertised : b.generation.advertisedKey = "localAPIEndpoint" := by
    rw [Generation.advertisedKey, hg]
    rfl
  have hheading : restated (renamings b) (heading Generation.v1alpha3.apiVersion
      "InitConfiguration") = fieldEntries (heading b.generation.apiVersion "InitConfiguration") :=
    restated_heading rfl (by simp [renamings])
  have htokens : restated (renamings b) (optional "bootstrapTokens"
      (d.bootstrapToken.map fun t => list [record [("token", text t)]])) =
      fieldEntries (optional "bootstrapTokens"
        (d.bootstrapToken.map fun t => list [record [("token", text t)]])) :=
    restated_of_named (named_optional _ _) (by simp [renamings])
  have hendpoint : restated (renamings b) [("apiEndpoint", d.advertised.tree)] =
      fieldEntries [("localAPIEndpoint", d.advertised.tree)] :=
    (restated_field rfl List.filterMap_some).trans (map_along_nil _)
  have hregistration : restated (renamings b) [("nodeRegistration", d.registration.tree)] =
      fieldEntries [("nodeRegistration", d.registration.tree)] :=
    restated_of_named (Named.single _) (by simp [renamings])
  have hcertificate := fieldEntries_certificateKey b.generation p []
  rw [map_along_nil] at hcertificate
  have hold : d.tree .v1alpha3 = record (heading Generation.v1alpha3.apiVersion
      "InitConfiguration" ++ optional "bootstrapTokens"
        (d.bootstrapToken.map fun t => list [record [("token", text t)]]) ++
      [("apiEndpoint", d.advertised.tree)] ++ [("nodeRegistration", d.registration.tree)]) := by
    simp [tree, hkey, optionalText, Yaml.optional, Generation.advertisedKey,
      Generation.flatComponents]
  rw [hold]
  refine restates_record (by simp) (by simp) (List.Perm.of_eq ?_)
  rw [hadvertised, ← hcertificate]
  simp only [restated_append, fieldEntries_append, hheading, htokens, hendpoint, hregistration,
    fieldEntries_cons, fieldEntries_nil, List.append_nil, List.append_assoc]

/-! ## The document that all nodes share -/

/-- A field of arguments, with another name for one of them. -/
theorem restated_arguments {rs : List Renaming} {key new : String} {way : List Step}
    {oldName newName : String}
    (hfind : Renaming.find rs key = ⟨key, way ++ [.field new], renamed oldName newName⟩)
    (m : Arguments) : restated rs (unlessEmpty key m table) =
      (fieldEntries (unlessEmpty new (m.rename oldName newName) table)).map (Place.along way) := by
  rcases m with _ | ⟨arg, m⟩
  · rfl
  · refine restated_field hfind ?_
    have hne : Arguments.rename oldName newName (arg :: m) ≠ [] := by simp [Arguments.rename]
    rw [entries_table (List.cons_ne_nil arg m), entries_table hne, Arguments.rename,
      List.filterMap_map, List.map_map, ← List.filterMap_eq_map]
    rfl

theorem Mount.restated_entries (m : Mount) (i : Nat) (hg : g.flatComponents = false) :
    ((m.tree .v1alpha3).entries.map (Place.under (.item i))).filterMap
      (opposed "writable" "readOnly") = (m.tree g).entries.map (Place.under (.item i)) := by
  cases g with
  | v1alpha3 => cases hg
  | v1beta1 => rfl
  | v1beta2 => rfl

theorem Mount.restated_itemEntries (ms : List Mount) (i : Nat) (hg : g.flatComponents = false) :
    (itemEntries i (ms.map (Mount.tree .v1alpha3))).filterMap (opposed "writable" "readOnly") =
      itemEntries i (ms.map (Mount.tree g)) := by
  induction ms generalizing i with
  | nil => rfl
  | cons m ms ih =>
    rw [List.map_cons, List.map_cons, itemEntries, itemEntries, List.filterMap_append,
      m.restated_entries i hg, ih]

/-- A field of mounts, with what may be written turned into what may not. -/
theorem restated_mounts {rs : List Renaming} {key new : String} {way : List Step}
    (hfind : Renaming.find rs key = ⟨key, way ++ [.field new], opposed "writable" "readOnly"⟩)
    (ms : List Mount) (hg : g.flatComponents = false) :
    restated rs (unlessEmpty key ms (mountsTree .v1alpha3)) =
      (fieldEntries (unlessEmpty new ms (mountsTree g))).map (Place.along way) := by
  refine restated_unlessEmpty hfind fun hne => ?_
  rw [mountsTree, mountsTree, entries_list (by simpa using hne), entries_list (by simpa using hne)]
  exact Mount.restated_itemEntries ms 0 hg

example (b : Selection) : restate (ClusterDocument.renamings b)
    ⟨[.field "apiServerExtraVolumes", .item 1, .field "writable"], flag true⟩ =
      some ⟨[.field "apiServer", .field "extraVolumes", .item 1, .field "readOnly"], flag false⟩ :=
  rfl

namespace ClusterDocument

/-- The fields that have the same names in all generations. -/
def commonFields (d : ClusterDocument) : List (String × Yaml) :=
  optionalText "clusterName" d.clusterName ++
    optionalText "controlPlaneEndpoint" d.controlPlaneEndpoint ++
    optionalText "imageRepository" d.imageRepository ++
    unlessEmpty "networking" d.networkFields record ++ [("etcd", d.etcd.tree)]

theorem restated_commonFields (b : Selection) (d : ClusterDocument) :
    restated (renamings b) d.commonFields = fieldEntries d.commonFields :=
  restated_of_named (((((named_optionalText _ _).append (named_optionalText _ _)).append
    (named_optionalText _ _)).append (named_unlessEmpty _ _ _)).append (Named.single _))
    (by simp [renamings])

theorem restated_flatFields (d : ClusterDocument) (apiServer : Component)
    (hg : b.generation.flatComponents = false)
    (harguments : (d.apiServer.arguments.rename "experimental-encryption-provider-config"
      "encryption-provider-config").Perm apiServer.arguments)
    (hmounts : d.apiServer.mounts = apiServer.mounts) :
    (restated (renamings b) (d.flatFields .v1alpha3)).Perm
      (fieldEntries ({ d with apiServer := apiServer }.groupedFields b.generation)) := by
  have hsans : restated (renamings b) (unlessEmpty "apiServerCertSANs" d.certSans texts) =
      (fieldEntries (unlessEmpty "certSANs" d.certSans texts)).map
        (Place.along [.field "apiServer"]) :=
    restated_unlessEmpty rfl fun _ => List.filterMap_some
  have hargs : (restated (renamings b)
      (unlessEmpty "apiServerExtraArgs" d.apiServer.arguments table)).Perm
      ((fieldEntries (unlessEmpty "extraArgs" apiServer.arguments table)).map
        (Place.along [.field "apiServer"])) := by
    have hrenamed : restated (renamings b)
        (unlessEmpty "apiServerExtraArgs" d.apiServer.arguments table) =
        (fieldEntries (unlessEmpty "extraArgs" (d.apiServer.arguments.rename
          "experimental-encryption-provider-config" "encryption-provider-config") table)).map
          (Place.along [.field "apiServer"]) := restated_arguments rfl _
    rw [hrenamed, fieldEntries_table, fieldEntries_table]
    exact (harguments.map _).map _
  have hvolumes : restated (renamings b)
      (unlessEmpty "apiServerExtraVolumes" d.apiServer.mounts (mountsTree .v1alpha3)) =
      (fieldEntries (unlessEmpty "extraVolumes" apiServer.mounts
        (mountsTree b.generation))).map (Place.along [.field "apiServer"]) := by
    rw [← hmounts]
    exact restated_mounts rfl _ hg
  have hmanagerArgs : restated (renamings b)
      (unlessEmpty "controllerManagerExtraArgs" d.controllerManager.arguments table) =
      (fieldEntries (unlessEmpty "extraArgs" d.controllerManager.arguments table)).map
        (Place.along [.field "controllerManager"]) :=
    restated_unlessEmpty rfl fun _ => List.filterMap_some
  have hmanagerVolumes : restated (renamings b) (unlessEmpty "controllerManagerExtraVolumes"
      d.controllerManager.mounts (mountsTree .v1alpha3)) =
      (fieldEntries (unlessEmpty "extraVolumes" d.controllerManager.mounts
        (mountsTree b.generation))).map (Place.along [.field "controllerManager"]) :=
    restated_mounts rfl _ hg
  rw [flatFields, groupedFields]
  simp only [restated_append, fieldEntries_append, fieldEntries_group, List.map_append, hsans,
    hvolumes, hmanagerArgs, hmanagerVolumes, List.append_assoc]
  exact (hargs.append_right _).append_left _

theorem restates (d : ClusterDocument) (apiServer : Component)
    (hg : b.generation.flatComponents = false)
    (harguments : (d.apiServer.arguments.rename "experimental-encryption-provider-config"
      "encryption-provider-config").Perm apiServer.arguments)
    (hmounts : d.apiServer.mounts = apiServer.mounts) :
    Restates (renamings b) [] (d.tree .v1alpha3)
      ({ d with version := b.version, apiServer := apiServer }.tree b.generation) := by
  have hheading : restated (renamings b) (heading Generation.v1alpha3.apiVersion
      "ClusterConfiguration") =
      fieldEntries (heading b.generation.apiVersion "ClusterConfiguration") :=
    restated_heading rfl (by simp [renamings])
  have hversion : restated (renamings b) [("kubernetesVersion", text d.version.tag)] =
      fieldEntries [("kubernetesVersion", text b.version.tag)] := rfl
  have hold : d.tree .v1alpha3 = record (heading Generation.v1alpha3.apiVersion
      "ClusterConfiguration" ++ [("kubernetesVersion", text d.version.tag)] ++ d.commonFields ++
        d.flatFields .v1alpha3) := by
    simp [tree, commonFields, Generation.flatComponents]
  have hnew : { d with version := b.version, apiServer := apiServer }.tree b.generation =
      record (heading b.generation.apiVersion "ClusterConfiguration" ++
        [("kubernetesVersion", text b.version.tag)] ++ d.commonFields ++
        { d with apiServer := apiServer }.groupedFields b.generation) := by
    simp [tree, commonFields, hg, groupedFields, networkFields]
  rw [hold, hnew]
  refine restates_record (by simp [heading]) (by simp [heading]) ?_
  simp only [restated_append, fieldEntries_append, hheading, hversion, restated_commonFields,
    List.append_nil]
  exact (restated_flatFields d apiServer hg harguments hmounts).append_left _

end ClusterDocument

/-! ## The document that a further node joins with -/

namespace JoinDocument

/-- What the later generations say of the certificate key where a node joins the control plane. -/
def certificateEntries (b : Selection) (p : Parameters) (controlPlane : Bool) : List Place :=
  if controlPlane then NodeBootstrap.certificateEntries b.generation p [.field "controlPlane"]
  else []

theorem restated_discovery (b : Selection) (d : JoinDocument) :
    (restated (renamings b) d.flatDiscoveryFields).Perm
      ((fieldEntries d.discoveryFields).map (Place.along discoveryWay)) := by
  have htoken : restated (renamings b) [("token", text d.token)] =
      (fieldEntries [("token", text d.token)]).map (Place.along discoveryWay) :=
    restated_field rfl List.filterMap_some
  have hservers : restated (renamings b) [("discoveryTokenAPIServers", texts [d.endpoint])] =
      (fieldEntries [("apiServerEndpoint", text d.endpoint)]).map (Place.along discoveryWay) :=
    restated_field rfl rfl
  have hhashes : restated (renamings b)
      (unlessEmpty "discoveryTokenCACertHashes" d.caCertHashes texts) =
      (fieldEntries (unlessEmpty "caCertHashes" d.caCertHashes texts)).map
        (Place.along discoveryWay) :=
    restated_unlessEmpty rfl fun _ => List.filterMap_some
  have hskip : restated (renamings b)
      [("discoveryTokenUnsafeSkipCAVerification", flag d.unsafeSkipCaVerification)] =
      (fieldEntries [("unsafeSkipCAVerification", flag d.unsafeSkipCaVerification)]).map
        (Place.along discoveryWay) :=
    restated_field rfl List.filterMap_some
  rw [flatDiscoveryFields, discoveryFields, restated_append, restated_append, restated_cons,
    htoken, hservers, hhashes, hskip, fieldEntries_append, fieldEntries_append, List.map_append,
    List.map_append]
  exact (List.perm_append_comm.append_right _).append_right _

theorem restated_control (b : Selection) (p : Parameters) (d : JoinDocument) :
    restated (renamings b) d.flatControlFields ++ certificateEntries b p d.controlPlane.isSome =
      fieldEntries (d.withKey (p.usableCertificateKey b.generation)).controlFields := by
  rcases hc : d.controlPlane with _ | c
  · simp [flatControlFields, controlFields, withKey, hc, certificateEntries, Yaml.optional]
  · have himplied : restated (renamings b) [("controlPlane", flag true)] = [] := rfl
    have hendpoint : restated (renamings b) [("apiEndpoint", c.advertised.tree)] =
        (fieldEntries [("localAPIEndpoint", c.advertised.tree)]).map
          (Place.along [.field "controlPlane"]) :=
      restated_field rfl List.filterMap_some
    have hgroup := fieldEntries_group "controlPlane" ([("localAPIEndpoint", c.advertised.tree)] ++
      optionalText "certificateKey" (p.usableCertificateKey b.generation))
    rw [fieldEntries_append, List.map_append, fieldEntries_certificateKey] at hgroup
    rw [flatControlFields, hc, restated_cons, himplied, hendpoint, controlFields, withKey, hc]
    exact hgroup.symm

theorem fieldEntries_discovery (d : JoinDocument) :
    fieldEntries [("discovery", record [("bootstrapToken", record d.discoveryFields)])] =
      (fieldEntries d.discoveryFields).map (Place.along discoveryWay) := by
  have hinner : fieldEntries [("bootstrapToken", record d.discoveryFields)] =
      (fieldEntries d.discoveryFields).map (Place.along [.field "bootstrapToken"]) :=
    fieldEntries_group "bootstrapToken" d.discoveryFields
  have houter := fieldEntries_group "discovery" [("bootstrapToken", record d.discoveryFields)]
  rw [hinner, List.map_map] at houter
  exact houter

/-- The certificate key comes after the registration of the node in one order, and before it in the
other. -/
theorem perm_rearranged {heading discovery discovery' control registration key : List Place}
    (h : discovery ~ discovery') :
    heading ++ (discovery ++ control) ++ registration ++ key ~
      heading ++ (discovery' ++ (control ++ key)) ++ registration :=
  calc heading ++ (discovery ++ control) ++ registration ++ key
      = heading ++ (discovery ++ control) ++ (registration ++ key) := List.append_assoc ..
    _ ~ heading ++ (discovery' ++ control) ++ (key ++ registration) :=
      ((h.append_right control).append_left heading).append List.perm_append_comm
    _ = heading ++ (discovery' ++ (control ++ key)) ++ registration := by
      simp only [List.append_assoc]

theorem restates (d : JoinDocument) (p : Parameters) (hg : b.generation.flatComponents = false) :
    Restates (renamings b) (certificateEntries b p d.controlPlane.isSome) (d.tree .v1alpha3)
      ((d.withKey (p.usableCertificateKey b.generation)).tree b.generation) := by
  have hheading : restated (renamings b) (heading Generation.v1alpha3.apiVersion
      "JoinConfiguration") = fieldEntries (heading b.generation.apiVersion "JoinConfiguration") :=
    restated_heading rfl (by simp [renamings])
  have hregistration : restated (renamings b) [("nodeRegistration", d.registration.tree)] =
      fieldEntries [("nodeRegistration", d.registration.tree)] :=
    restated_of_named (Named.single _) (by simp [renamings])
  have hold : d.tree .v1alpha3 = record (heading Generation.v1alpha3.apiVersion
      "JoinConfiguration" ++ (d.flatDiscoveryFields ++ d.flatControlFields) ++
      [("nodeRegistration", d.registration.tree)]) := rfl
  have hnew : (d.withKey (p.usableCertificateKey b.generation)).tree b.generation =
      record (heading b.generation.apiVersion "JoinConfiguration" ++
        ([("discovery", record [("bootstrapToken", record d.discoveryFields)])] ++
          (d.withKey (p.usableCertificateKey b.generation)).controlFields) ++
        [("nodeRegistration", d.registration.tree)]) := by
    rw [tree, hg]
    rfl
  rw [hold, hnew]
  refine restates_record (by simp [heading]) (by simp [heading]) ?_
  simp only [restated_append, fieldEntries_append, hheading, hregistration,
    fieldEntries_discovery, ← restated_control]
  exact perm_rearranged (restated_discovery b d)

theorem mem_names_flatFields (d : JoinDocument) :
    "controlPlane" ∈ d.flatFields.map (·.1) ↔ d.controlPlane.isSome = true := by
  rcases d with ⟨endpoint, token, _ | ⟨hash, hashes⟩, skip, _ | c, registration⟩ <;>
    simp [flatFields, unlessEmpty]

theorem mem_names_groupedFields (d : JoinDocument) :
    "controlPlane" ∈ d.groupedFields.map (·.1) ↔ d.controlPlane.isSome = true := by
  rcases d with ⟨endpoint, token, hashes, skip, _ | c, registration⟩ <;>
    simp [groupedFields, Yaml.optional]

/-- A document has a field of the control plane exactly when it joins one. -/
theorem mem_keys_tree (g : Generation) (d : JoinDocument) :
    "controlPlane" ∈ (d.tree g).keys ↔ d.controlPlane.isSome = true := by
  unfold tree
  split
  · simp [heading, mem_names_flatFields d]
  · simp [heading, mem_names_groupedFields d]

end JoinDocument

/-! ## Whole configurations -/

namespace Rendering

theorem init_layouts (hgeneration : a.generation = .v1alpha3)
    (hlonger : a.encryptionFlag = "experimental-encryption-provider-config")
    (hg : b.generation.flatComponents = false)
    (hshorter : b.encryptionFlag = "encryption-provider-config") (p : Parameters) :
    (∃ e, init a p = .error e ∧ init b p = .error e) ∨
      ∃ first first' cluster cluster' agent,
        initTrees a p = .ok (first :: cluster :: agent) ∧
        initTrees b p = .ok (first' :: cluster' :: agent) ∧
        init a p = .ok ⟨.v1alpha3, assemble (first :: cluster :: agent)⟩ ∧
        init b p = .ok ⟨b.generation, assemble (first' :: cluster' :: agent)⟩ ∧
        Restates (InitDocument.renamings b) (certificateEntries b.generation p []) first first' ∧
        Restates (ClusterDocument.renamings b) [] cluster cluster' := by
  rw [init, init, initTrees_eq, initTrees_eq, InitDocument.of_eq b.generation a.generation,
    ClusterDocument.of_eq a b, hgeneration]
  rcases hfirst : InitDocument.of .v1alpha3 p with e | first
  · exact Or.inl ⟨e, rfl, rfl⟩
  · rcases hcluster : ClusterDocument.of a p with e | cluster
    · exact Or.inl ⟨e, rfl, rfl⟩
    · refine Or.inr ⟨_, _, _, _, _, rfl, rfl, rfl, rfl, ?_, ?_⟩
      · exact first.restates hg (InitDocument.certificateKey_of hfirst)
      · obtain ⟨hserver, -, -⟩ := ClusterDocument.components_of hcluster
        refine cluster.restates _ hg ?_ ?_
        · rw [hserver]
          exact Component.perm_apiServer hlonger hshorter p
        · rw [hserver]
          exact Component.mounts_apiServer a b p

theorem join_layouts (hgeneration : a.generation = .v1alpha3)
    (hg : b.generation.flatComponents = false) (p : Parameters) :
    (∃ e, join a p = .error e ∧ join b p = .error e) ∨
      ∃ further further' agent,
        joinTrees a p = .ok (further :: agent) ∧ joinTrees b p = .ok (further' :: agent) ∧
        join a p = .ok ⟨.v1alpha3, assemble (further :: agent)⟩ ∧
        join b p = .ok ⟨b.generation, assemble (further' :: agent)⟩ ∧
        Restates (JoinDocument.renamings b)
          (JoinDocument.certificateEntries b p p.join.controlPlane) further further' ∧
        ("controlPlane" ∈ further.keys ↔ p.join.controlPlane = true) ∧
        ("controlPlane" ∈ further'.keys ↔ p.join.controlPlane = true) := by
  rw [join, join, joinTrees_eq, joinTrees_eq, JoinDocument.of_eq b.generation a.generation,
    hgeneration]
  rcases hfurther : JoinDocument.of .v1alpha3 p with e | further
  · exact Or.inl ⟨e, rfl, rfl⟩
  · have hcontrol := JoinDocument.isSome_controlPlane_of hfurther
    refine Or.inr ⟨_, _, _, rfl, rfl, rfl, rfl, ?_, ?_, ?_⟩
    · rw [← hcontrol]
      exact further.restates p hg
    · rw [JoinDocument.mem_keys_tree, hcontrol]
    · rw [JoinDocument.mem_keys_tree, JoinDocument.withKey, Option.isSome_map, hcontrol]

/-- **The two layouts carry the same configuration.** Whatever the parameters, a version of the
twelfth line and a supported one of a later line are either refused with the same failure, or the
documents of the later one say what those of the earlier one say under the fixed renamings, apart
from their own versions and the certificate key that only the last generation has. The document of
the node agent is the same. -/
theorem layouts_agree (hv : Selection.of v = .ok a) (hflat : v.minor = 12)
    (hw : Selection.of w = .ok b) (hgrouped : 13 ≤ w.minor) (p : Parameters) :
    ((∃ e, init a p = .error e ∧ init b p = .error e) ∨
      ∃ first first' cluster cluster' agent,
        initTrees a p = .ok (first :: cluster :: agent) ∧
        initTrees b p = .ok (first' :: cluster' :: agent) ∧
        init a p = .ok ⟨.v1alpha3, assemble (first :: cluster :: agent)⟩ ∧
        init b p = .ok ⟨b.generation, assemble (first' :: cluster' :: agent)⟩ ∧
        Restates (InitDocument.renamings b) (certificateEntries b.generation p []) first first' ∧
        Restates (ClusterDocument.renamings b) [] cluster cluster') ∧
    ((∃ e, join a p = .error e ∧ join b p = .error e) ∨
      ∃ further further' agent,
        joinTrees a p = .ok (further :: agent) ∧ joinTrees b p = .ok (further' :: agent) ∧
        join a p = .ok ⟨.v1alpha3, assemble (further :: agent)⟩ ∧
        join b p = .ok ⟨b.generation, assemble (further' :: agent)⟩ ∧
        Restates (JoinDocument.renamings b)
          (JoinDocument.certificateEntries b p p.join.controlPlane) further further' ∧
        ("controlPlane" ∈ further.keys ↔ p.join.controlPlane = true) ∧
        ("controlPlane" ∈ further'.keys ↔ p.join.controlPlane = true)) := by
  obtain ⟨hgeneration, hlonger⟩ := Selection.flat_of hv hflat
  obtain ⟨hg, hshorter⟩ := Selection.grouped_of hw hgrouped
  exact ⟨init_layouts hgeneration hlonger hg hshorter p, join_layouts hgeneration hg p⟩

/-- The two layouts of a node of the control plane, with a mount, the encryption flag and a
certificate key. -/
theorem layouts_agree_with_certificate :
    let a : Selection := ⟨⟨1, 12, 0⟩, .v1alpha3, true⟩
    let b : Selection := ⟨⟨1, 16, 0⟩, .v1beta2, false⟩
    let p : Parameters :=
      { advertiseAddress := "10.0.0.10"
        certificateKey := some "e6a2eb8581237ab72a4f494f30285ec12a9694d750b9785706a83bfcbbbd2204"
        apiServer := { encryptionProviderConfig := some "/etc/kubernetes/encryption.yaml" }
        join := { apiServerEndpoint := some "10.0.0.1"
                  token := some "abcdef.0123456789abcdef"
                  controlPlane := true } }
    Selection.of ⟨1, 12, 0⟩ = .ok a ∧ Selection.of ⟨1, 16, 0⟩ = .ok b ∧
    (∃ first first' cluster cluster' agent,
      initTrees a p = .ok (first :: cluster :: agent) ∧
      initTrees b p = .ok (first' :: cluster' :: agent) ∧
      Restates (InitDocument.renamings b) (certificateEntries .v1beta2 p []) first first' ∧
      Restates (ClusterDocument.renamings b) [] cluster cluster') ∧
    ∃ further further' agent,
      joinTrees a p = .ok (further :: agent) ∧ joinTrees b p = .ok (further' :: agent) ∧
      Restates (JoinDocument.renamings b) (JoinDocument.certificateEntries b p true)
        further further' := by
  intro a b p
  have ha : Selection.of ⟨1, 12, 0⟩ = .ok a := by decide
  have hb : Selection.of ⟨1, 16, 0⟩ = .ok b := by decide
  have hinit : (init a p).isOk = true := by decide +kernel
  have hjoin : (join a p).isOk = true := by decide +kernel
  obtain ⟨hfirst, hfurther⟩ := layouts_agree ha rfl hb (by decide) p
  refine ⟨ha, hb, ?_, ?_⟩
  · rcases hfirst with ⟨e, he, -⟩ |
      ⟨first, first', cluster, cluster', agent, hold, hnew, -, -, hsay⟩
    · rw [he] at hinit
      cases hinit
    · exact ⟨first, first', cluster, cluster', agent, hold, hnew, hsay⟩
  · rcases hfurther with ⟨e, he, -⟩ | ⟨further, further', agent, hold, hnew, -, -, hsay, -⟩
    · rw [he] at hjoin
      cases hjoin
    · exact ⟨further, further', agent, hold, hnew, hsay⟩

end Rendering

end NodeBootstrap
