import NodeBootstrap.Proofs.Lookups
import NodeBootstrap.Proofs.Places
import NodeBootstrap.Proofs.Cutting
import Mathlib.Data.List.Forall2

/-!
# Files of the host

Some arguments of a component of the control plane name files of the host. The component finds them
in its volumes.

* `Path.directory?`: the directory that a file lies in;
* `Yaml.fieldsAt`, `Yaml.itemsAt`, `Yaml.writable?`: arguments, volumes, and whether a volume may be
  written;
* `Yaml.Serves`, `Yaml.MisplacesLog`: a volume that has what an argument names, and the one that has
  not;
* `Yaml.VolumesPair`: the volumes of a component and its arguments, one to one;
* `Component.forall₂_together`: settings of several purposes pair their own;
* **`Rendering.host_files_served`**: every argument that names a file has its volume, unless the
  audit log is kept at the root.
-/

namespace NodeBootstrap

open Text Yaml

/-! ## Directories -/

namespace Path

/-- The directory that a file lies in: what stands before the last slash of its path, or the root
where nothing does. -/
def directory? (path : String) : Option String :=
  (Chars.cutLast '/' path.toList).map fun (dir, _) => if dir = [] then "/" else String.ofList dir

theorem directory?_append (dir : String) {name : String} (h : '/' ∉ name.toList) :
    directory? (dir ++ "/" ++ name) = some (if dir = "" then "/" else dir) := by
  have hchars : (dir ++ "/" ++ name).toList = dir.toList ++ '/' :: name.toList := by simp
  rw [directory?, hchars, Chars.cutLast_append _ h]
  simp

end Path

/-! ## Arguments and volumes -/

/-- The arguments that name files of the host; the one that encrypts has two spellings. -/
def hostFileArguments : List String :=
  ["cloud-config", "audit-log-path", "audit-policy-file", "encryption-provider-config",
    "experimental-encryption-provider-config"]

namespace Yaml

/-- The fields of a record at the end of a path. -/
def fieldsAt (path : List String) (y : Yaml) : List (String × Yaml) :=
  ((y.at? path).map fields).getD []

/-- The items of a list. -/
def items : Yaml → List Yaml
  | list ys => ys
  | _ => []

/-- The items of a list at the end of a path. -/
def itemsAt (path : List String) (y : Yaml) : List Yaml := ((y.at? path).map items).getD []

/-- Whether a volume may be written: it says so itself, or says that it is only read. -/
def writable? (volume : Yaml) : Option Bool :=
  match volume.field? "writable", volume.field? "readOnly" with
  | some (flag writable), none => some writable
  | none, some (flag readOnly) => some !readOnly
  | _, _ => none

/-- A volume that has a path of the host under the same path. -/
def Shares (path : String) (volume : Yaml) : Prop :=
  volume.field? "hostPath" = some (text path) ∧ volume.field? "mountPath" = some (text path)

/-- A volume that has the file that an argument names, or its directory. Only the directory of the
audit log may be written. -/
def Serves (argument : String × Yaml) (volume : Yaml) : Prop :=
  ∃ file path, argument.2 = text file ∧ volume.Shares path ∧ path ≠ "" ∧
    (path = file ∨ Path.directory? file = some path) ∧
    volume.writable? = some (argument.1 == "audit-log-path")

/-- A volume without a path for an audit log that lies at the root. -/
def MisplacesLog (argument : String × Yaml) (volume : Yaml) : Prop :=
  argument.2 = text "/audit.log" ∧ volume.Shares "" ∧ volume.writable? = some true

/-- The volumes of a component and its arguments that name files of the host are pairs. -/
def VolumesPair (R : String × Yaml → Yaml → Prop) (g : Generation) (c : ControlComponent)
    (cluster : Yaml) : Prop :=
  ∃ files : List (String × Yaml),
    files.Perm ((cluster.fieldsAt (g.argumentsPath c)).filter (·.1 ∈ hostFileArguments)) ∧
      List.Forall₂ R files (cluster.itemsAt (g.mountsPath c))

end Yaml

/-- The audit log is kept at the root: its directory is written with slashes only. -/
def ApiServerParameters.LogsAtRoot (a : ApiServerParameters) : Prop :=
  ∃ dir, nonBlank a.auditLogDir = some dir ∧ ∀ c ∈ dir.toList, c = '/'

/-! ## Settings -/

namespace Component

variable {R : String × String → Mount → Prop}

/-- The arguments of a component that name files of the host. -/
def hostFiles (c : Component) : List (String × String) :=
  c.arguments.filter (·.1 ∈ hostFileArguments)

/-- Settings of several purposes pair what each of them pairs. -/
theorem forall₂_together {parts : List Component}
    (hnodup : ((parts.flatMap (·.arguments)).map (·.1)).Nodup)
    (h : ∀ part ∈ parts, List.Forall₂ R part.hostFiles part.mounts) :
    ∃ files, files.Perm (together parts).hostFiles ∧
      List.Forall₂ R files (together parts).mounts := by
  -- the whole has its arguments in the order of their names, but its mounts in that of the parts
  refine ⟨parts.flatMap hostFiles, ?_, ?_⟩
  · rw [hostFiles, arguments_together, show parts.flatMap hostFiles =
      (parts.flatMap (·.arguments)).filter (·.1 ∈ hostFileArguments) from List.filter_flatMap.symm]
    exact ((Arguments.perm_ofList hnodup).filter _).symm
  · clear hnodup
    change List.Forall₂ R (parts.flatMap hostFiles) (parts.flatMap (·.mounts))
    induction parts with
    | nil => exact .nil
    | cons part parts ih =>
      rw [List.forall_mem_cons] at h
      rw [List.flatMap_cons, List.flatMap_cons]
      exact List.rel_append h.1 (ih h.2)

section Parts

variable (hfile : ∀ name path mount, name ≠ "audit-log-path" → path ≠ "" →
  R (name, path) (fileMount mount path))

include hfile

theorem forall₂_ofProvider (provider : Option String) :
    List.Forall₂ R (ofProvider provider).hostFiles (ofProvider provider).mounts := by
  rcases provider with _ | name
  · exact .nil
  · unfold ofProvider
    dsimp only
    split
    · exact .cons (hfile _ _ _ (by decide) (by decide)) .nil
    · exact .nil

theorem forall₂_ofEncryption (s : Selection) (path : Option String) :
    List.Forall₂ R (ofEncryption s.encryptionFlag (nonBlank path)).hostFiles
      (ofEncryption s.encryptionFlag (nonBlank path)).mounts := by
  rcases hpath : nonBlank path with _ | file
  · exact .nil
  · have hflag : s.encryptionFlag ∈ hostFileArguments ∧ s.encryptionFlag ≠ "audit-log-path" := by
      unfold Selection.encryptionFlag
      split <;> decide
    have hfiles : (ofEncryption s.encryptionFlag (some file)).hostFiles =
        [(s.encryptionFlag, file)] := List.filter_cons_of_pos (by simpa using hflag.1)
    rw [hfiles]
    exact .cons (hfile _ _ _ hflag.2 (ne_empty_of_nonBlank hpath)) .nil

theorem forall₂_ofAuditLog {dir : Option String}
    (hlog : ∀ d, dir = some d → R ("audit-log-path", withoutSlashes d ++ "/audit.log")
      ⟨"audit-log", withoutSlashes d, true, "DirectoryOrCreate"⟩) :
    List.Forall₂ R (ofAuditLog dir).hostFiles (ofAuditLog dir).mounts := by
  rcases dir with _ | d
  · exact .nil
  · exact .cons (hlog d rfl) (.cons (hfile _ _ _ (by decide) (by decide)) .nil)

omit hfile in
/-- Other arguments need no volumes. -/
theorem forall₂_of_named {names : List String} {arguments : List (String × String)}
    (h : Named names arguments) (hnames : ∀ name ∈ names, name ∉ hostFileArguments) :
    List.Forall₂ R (hostFiles { arguments := arguments }) [] := by
  have hnone : hostFiles { arguments := arguments } = [] :=
    List.filter_eq_nil_iff.mpr fun a ha => by simpa using hnames _ (h.mem ha)
  rw [hnone]
  exact .nil

theorem forall₂_apiServer (s : Selection) (p : Parameters)
    (hlog : ∀ d, nonBlank p.apiServer.auditLogDir = some d →
      R ("audit-log-path", withoutSlashes d ++ "/audit.log")
        ⟨"audit-log", withoutSlashes d, true, "DirectoryOrCreate"⟩) :
    ∃ files, files.Perm (apiServer s p).hostFiles ∧
      List.Forall₂ R files (apiServer s p).mounts := by
  refine forall₂_together ?_ ?_
  · simp only [List.flatMap_cons, List.flatMap_nil, List.append_nil]
    refine Named.nodup ((named_ofProvider _).append ((named_ofSettings _).append
      ((named_ofAuditLog _).append (named_ofEncryption _ _)))) ?_
    unfold Selection.encryptionFlag
    split <;> decide
  · simp only [List.forall_mem_cons]
    exact ⟨forall₂_ofProvider hfile _, forall₂_of_named (named_ofSettings _) (by decide),
      forall₂_ofAuditLog hfile hlog, forall₂_ofEncryption hfile s _, by simp⟩

theorem forall₂_controllerManager (p : Parameters) :
    ∃ files, files.Perm (controllerManager p).hostFiles ∧
      List.Forall₂ R files (controllerManager p).mounts := by
  have hsigning := (named_argument "cluster-signing-cert-file"
    (nonBlank p.controllerManager.signingCertFile)).append
    (named_argument "cluster-signing-key-file" (nonBlank p.controllerManager.signingKeyFile))
  refine forall₂_together ?_ ?_
  · simp only [List.flatMap_cons, List.flatMap_nil, List.append_nil]
    exact Named.nodup ((named_ofProvider _).append hsigning) (by decide)
  · simp only [List.forall_mem_cons]
    exact ⟨forall₂_ofProvider hfile _, forall₂_of_named hsigning (by decide), by simp⟩

end Parts

end Component

/-! ## Documents -/

section Documents

variable {g : Generation} {d : ClusterDocument} {c : ControlComponent}

theorem ClusterDocument.fieldsAt_arguments : (d.tree g).fieldsAt (g.argumentsPath c) =
    (d.component c).arguments.map fun a => (a.1, text a.2) := by
  rw [fieldsAt, at?_arguments]
  rcases (d.component c).arguments with _ | ⟨a, as⟩
  · rfl
  · rfl

theorem ClusterDocument.itemsAt_mounts : (d.tree g).itemsAt (g.mountsPath c) =
    (d.component c).mounts.map (Mount.tree g) := by
  rw [itemsAt, at?_mounts]
  rcases (d.component c).mounts with _ | ⟨m, ms⟩
  · rfl
  · rfl

/-- Pairs of settings are pairs in the document. -/
theorem Component.volumesPair {R : String × Yaml → Yaml → Prop}
    (h : ∃ files, files.Perm (d.component c).hostFiles ∧
      List.Forall₂ (fun a m => R (a.1, text a.2) (m.tree g)) files (d.component c).mounts) :
    VolumesPair R g c (d.tree g) := by
  obtain ⟨files, hperm, hpairs⟩ := h
  refine ⟨files.map fun a => (a.1, text a.2), ?_, ?_⟩
  · rw [ClusterDocument.fieldsAt_arguments, List.filter_map]
    exact hperm.map _
  · rw [ClusterDocument.itemsAt_mounts, List.forall₂_map_left_iff, List.forall₂_map_right_iff]
    exact hpairs

theorem Mount.shares_tree (m : Mount) : (m.tree g).Shares m.path := by
  constructor <;> simp [tree]

theorem Mount.writable?_tree (m : Mount) : (m.tree g).writable? = some m.writable := by
  cases g <;> simp [tree, writable?, Generation.flatComponents]

/-- What a mount serves is up to its path. -/
theorem Mount.serves_tree_iff {m : Mount} {name file : String} :
    Serves (name, text file) (m.tree g) ↔ m.path ≠ "" ∧
      (m.path = file ∨ Path.directory? file = some m.path) ∧
      m.writable = (name == "audit-log-path") := by
  constructor
  · rintro ⟨file', path, hfile, hshares, hpath, hplace, hwritable⟩
    cases hfile
    cases hshares.1.symm.trans m.shares_tree.1
    exact ⟨hpath, hplace, Option.some.inj (m.writable?_tree.symm.trans hwritable)⟩
  · rintro ⟨hpath, hplace, hwritable⟩
    exact ⟨file, m.path, rfl, m.shares_tree, hpath, hplace, hwritable ▸ m.writable?_tree⟩

/-- A file is served by a volume of its own, which is only read. -/
theorem Mount.serves_fileMount {name path mount : String} (hname : name ≠ "audit-log-path")
    (hpath : path ≠ "") : Serves (name, text path) ((fileMount mount path).tree g) :=
  serves_tree_iff.mpr ⟨hpath, Or.inl rfl, (beq_eq_false_iff_ne.mpr hname).symm⟩

theorem directory?_auditLog (dir : String) : Path.directory? (dir ++ "/audit.log") =
    some (if dir = "" then "/" else dir) := by
  have hlog : dir ++ "/audit.log" = dir ++ "/" ++ "audit.log" := by
    rw [String.append_assoc]
    rfl
  rw [hlog, Path.directory?_append dir (by decide)]

/-- The audit log is served by its directory, which may be written. -/
theorem Mount.serves_auditLog {dir : String} (hdir : dir ≠ "") :
    Serves ("audit-log-path", text (dir ++ "/audit.log"))
      (Mount.tree g ⟨"audit-log", dir, true, "DirectoryOrCreate"⟩) := by
  refine serves_tree_iff.mpr ⟨hdir, Or.inr ?_, rfl⟩
  rw [directory?_auditLog, if_neg hdir]

theorem Yaml.Serves.not_shares {argument : String × Yaml} {volume : Yaml}
    (h : Serves argument volume) : ¬volume.Shares "" := by
  obtain ⟨file, path, -, hshares, hpath, -⟩ := h
  intro hempty
  cases hshares.1.symm.trans hempty.1
  exact hpath rfl

/-- No volume that serves an argument is without a path. -/
theorem Yaml.VolumesPair.not_shares {cluster : Yaml} (h : cluster.VolumesPair Serves g c) :
    ∀ volume ∈ cluster.itemsAt (g.mountsPath c), ¬volume.Shares "" := by
  obtain ⟨files, -, hpairs⟩ := h
  generalize cluster.itemsAt (g.mountsPath c) = volumes at hpairs ⊢
  clear * - hpairs
  induction hpairs with
  | nil => simp
  | cons hserves _ ih => exact List.forall_mem_cons.mpr ⟨hserves.not_shares, ih⟩

end Documents

namespace ClusterDocument

variable {s : Selection} {p : Parameters} {d : ClusterDocument}

theorem volumesPair_controllerManager (h : ClusterDocument.of s p = .ok d) :
    (d.tree s.generation).VolumesPair Serves s.generation .controllerManager := by
  refine Component.volumesPair ?_
  rw [component, (components_of h).2.1]
  exact Component.forall₂_controllerManager
    (fun _ _ _ hname hpath => Mount.serves_fileMount hname hpath) p

theorem volumesPair_apiServer (h : ClusterDocument.of s p = .ok d)
    (hroot : ¬p.apiServer.LogsAtRoot) :
    (d.tree s.generation).VolumesPair Serves s.generation .apiServer := by
  refine Component.volumesPair ?_
  rw [component, (components_of h).1]
  refine Component.forall₂_apiServer
    (fun _ _ _ hname hpath => Mount.serves_fileMount hname hpath) s p fun dir hdir => ?_
  refine Mount.serves_auditLog fun hempty => hroot ⟨dir, hdir, ?_⟩
  exact withoutSlashes_eq_empty_iff.mp hempty

/-- Kept at the root, the audit log is the only file without its directory. -/
theorem volumesPair_of_logsAtRoot (h : ClusterDocument.of s p = .ok d)
    (hroot : p.apiServer.LogsAtRoot) :
    (d.tree s.generation).VolumesPair (fun argument volume =>
      if argument.1 = "audit-log-path" then MisplacesLog argument volume
      else Serves argument volume) s.generation .apiServer := by
  obtain ⟨dir, hdir, hslashes⟩ := hroot
  refine Component.volumesPair ?_
  rw [component, (components_of h).1]
  refine Component.forall₂_apiServer (fun _ _ _ hname hpath => ?_) s p fun dir' hdir' => ?_
  · rw [if_neg hname]
    exact Mount.serves_fileMount hname hpath
  · obtain rfl := Option.some.inj (hdir.symm.trans hdir')
    rw [if_pos rfl, withoutSlashes_eq_empty_iff.mpr hslashes]
    exact ⟨rfl, Mount.shares_tree _, Mount.writable?_tree _⟩

theorem not_volumesPair_of_logsAtRoot (h : ClusterDocument.of s p = .ok d)
    (hroot : p.apiServer.LogsAtRoot) :
    ¬(d.tree s.generation).VolumesPair Serves s.generation .apiServer := by
  obtain ⟨dir, hdir, hslashes⟩ := hroot
  intro hpair
  obtain ⟨log, hlog, hpath⟩ : ∃ log ∈ (d.component .apiServer).mounts, log.path = "" := by
    refine ⟨⟨"audit-log", "", true, "DirectoryOrCreate"⟩, ?_, rfl⟩
    rw [component, (components_of h).1]
    simp [Component.apiServer, Component.together, Component.ofAuditLog, hdir,
      withoutSlashes_eq_empty_iff.mpr hslashes]
  have hshares : (log.tree s.generation).Shares "" := hpath ▸ log.shares_tree
  refine hpair.not_shares _ ?_ hshares
  rw [itemsAt_mounts]
  exact List.mem_map_of_mem hlog

end ClusterDocument

namespace Rendering

/-- **Every argument that names a file of the host has a volume with the file or its directory**,
and every volume is there for one of them, in both components of the control plane. Only the
directory of the audit log may be written. An audit log at the root is the exception: its volume has
no path. -/
theorem host_files_served {s : Selection} {p : Parameters} {r : Rendering}
    (h : init s p = .ok r) : ∃ first cluster agent,
      initTrees s p = .ok (first :: cluster :: agent) ∧
      r = ⟨s.generation, assemble (first :: cluster :: agent)⟩ ∧
      cluster.VolumesPair Serves s.generation .controllerManager ∧
      (cluster.VolumesPair Serves s.generation .apiServer ↔ ¬p.apiServer.LogsAtRoot) ∧
      (p.apiServer.LogsAtRoot → cluster.VolumesPair (fun argument volume =>
        if argument.1 = "audit-log-path" then MisplacesLog argument volume
        else Serves argument volume) s.generation .apiServer) := by
  obtain ⟨trees, htrees, rfl⟩ := Results.map_eq_ok_iff.mp h
  obtain ⟨first, cluster, -, hcluster, rfl⟩ := initTrees_eq_ok_iff.mp htrees
  refine ⟨_, _, _, htrees, rfl, ClusterDocument.volumesPair_controllerManager hcluster, ⟨?_, ?_⟩,
    ClusterDocument.volumesPair_of_logsAtRoot hcluster⟩
  · exact fun hpair hroot => ClusterDocument.not_volumesPair_of_logsAtRoot hcluster hroot hpair
  · exact ClusterDocument.volumesPair_apiServer hcluster

/-- A directory with a slash after it, a recognised provider and an encrypted store: all four
arguments have their volumes. -/
theorem host_files_served_of_slash :
    let s : Selection := ⟨⟨1, 12, 0⟩, .v1alpha3, true⟩
    let p : Parameters :=
      { advertiseAddress := "10.0.0.5"
        cloudProvider := some "aws"
        apiServer := { auditLogDir := some "/var/log/kubernetes/"
                       encryptionProviderConfig := some "/etc/kubernetes/encryption.yaml" } }
    ∃ first cluster agent, init s p = .ok ⟨.v1alpha3, assemble (first :: cluster :: agent)⟩ ∧
      cluster.VolumesPair Serves .v1alpha3 .controllerManager ∧
      cluster.VolumesPair Serves .v1alpha3 .apiServer := by
  intro s p
  obtain ⟨r, hr⟩ : ∃ r, init s p = .ok r := Results.exists_eq_ok_iff.mpr (by decide +kernel)
  have hroot : ¬p.apiServer.LogsAtRoot := by
    rintro ⟨dir, hdir, hslashes⟩
    obtain rfl : "/var/log/kubernetes/" = dir := Option.some.inj hdir
    exact absurd (hslashes 'v' (by decide)) (by decide)
  obtain ⟨first, cluster, agent, -, rfl, hmanager, hserver, -⟩ := host_files_served hr
  exact ⟨first, cluster, agent, hr, hmanager, hserver.mpr hroot⟩

/-- The audit log of the directory `/` has no volume with its directory: the path is lost with the
slash. -/
theorem host_files_unserved :
    let s : Selection := ⟨⟨1, 16, 0⟩, .v1beta2, false⟩
    let p : Parameters :=
      { advertiseAddress := "10.0.0.5", apiServer := { auditLogDir := some "/" } }
    ∃ first cluster agent, init s p = .ok ⟨.v1beta2, assemble (first :: cluster :: agent)⟩ ∧
      ("audit-log-path", Yaml.text "/audit.log") ∈
        cluster.fieldsAt (Generation.v1beta2.argumentsPath .apiServer) ∧
      ∀ volume ∈ cluster.itemsAt (Generation.v1beta2.mountsPath .apiServer),
        ¬Serves ("audit-log-path", .text "/audit.log") volume := by
  intro s p
  obtain ⟨r, hr⟩ : ∃ r, init s p = .ok r := Results.exists_eq_ok_iff.mpr (by decide +kernel)
  obtain ⟨trees, htrees, rfl⟩ := Results.map_eq_ok_iff.mp hr
  obtain ⟨first, cluster, -, hcluster, rfl⟩ := initTrees_eq_ok_iff.mp htrees
  have hserver : cluster.component .apiServer = Component.apiServer s p :=
    (ClusterDocument.components_of hcluster).1
  refine ⟨_, _, _, hr, ?_, ?_⟩
  · rw [ClusterDocument.fieldsAt_arguments, hserver]
    exact List.mem_map_of_mem (by decide : ("audit-log-path", "/audit.log") ∈ _)
  · have hmounts : (Component.apiServer s p).mounts = [⟨"audit-log", "", true, "DirectoryOrCreate"⟩,
        fileMount "audit-policy" HostPath.auditPolicy] := by decide
    have hroot : Path.directory? "/audit.log" = some "/" := by decide
    rw [ClusterDocument.itemsAt_mounts, hserver, hmounts]
    simp [Mount.serves_tree_iff, hroot, fileMount, HostPath.auditPolicy]

end Rendering

end NodeBootstrap
