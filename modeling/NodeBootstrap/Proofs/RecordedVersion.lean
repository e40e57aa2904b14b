import Mathlib.Data.List.Nodup
import NodeBootstrap.Cluster.RecordedVersion
import NodeBootstrap.Proofs.Conformance
import NodeBootstrap.Proofs.ReadBack
import NodeBootstrap.Proofs.Separation
import NodeBootstrap.Proofs.StoredObjects
import NodeBootstrap.Proofs.WrittenVersions

/-!
# The version that a configuration records

The document that all nodes share names the version that it was rendered for, and the cluster keeps
this document. Whatever the settings hold, the version that is read from it is that one.

* `RecordedVersion.keys_fieldValues`, `RecordedVersion.valueOf_fieldValues`: the keys and values of
  a record that is read;
* `RecordedVersion.ofDocument_write`: the version text of a written record;
* **`RecordedVersion.read_rendered`**: the version of a rendered configuration is read back.
-/

namespace NodeBootstrap

open Yaml

namespace RecordedVersion

/-! ## Records that are read -/

theorem keys_fieldValues (fs : List (String × Yaml)) :
    keys (fieldValues fs) = some (fs.map (·.1)) := by
  induction fs with
  | nil => rfl
  | cons f fs ih =>
    rw [fieldValues, fieldValue, keys, ih]
    rfl

theorem valueOf_fieldValues (k : String) (fs : List (String × Yaml)) :
    valueOf k (fieldValues fs) = ((record fs).field? k).map Yaml.value := by
  induction fs with
  | nil => rfl
  | cons f fs ih =>
    rw [field?] at ih ⊢
    rw [fieldValues, fieldValue, valueOf, ih]
    split
    · next heq => simp [heq]
    · next hne => rw [List.find?_cons_of_neg (by simpa using hne)]

/-- A record of different keys has the version text that it holds. -/
theorem ofValue_record {fs : List (String × Yaml)} {version : String}
    (hnodup : (fs.map (·.1)).Nodup)
    (hversion : (record fs).field? field = some (.text version)) :
    ofValue (record fs).value = .ok version := by
  have hvalue : valueOf field (fieldValues fs) = some (.text version) := by
    rw [valueOf_fieldValues, hversion]
    rfl
  have hmem : field ∈ fs.map (·.1) := by
    obtain ⟨f, hfind, -⟩ := Option.map_eq_some_iff.mp hversion
    have hkey : f.1 = field := by simpa using List.find?_some hfind
    exact List.mem_map.mpr ⟨f, List.mem_of_find?_eq_some hfind, hkey⟩
  rw [Yaml.value, ofValue, keys_fieldValues, hvalue]
  exact if_pos (List.count_eq_one_of_mem hnodup hmem)

/-- The version text of a written record is the one that it holds. -/
theorem ofDocument_write {y : Yaml} {ends : Char → Prop} {version : String}
    (htidy : y.IsTidyRecord ends) (hnodup : y.keys.Nodup)
    (hversion : y.field? field = some (.text version)) :
    ofDocument (String.ofList y.write) = .ok version := by
  rw [ofDocument, htidy.parse_write]
  obtain ⟨f, fs, rfl, -⟩ := htidy
  exact ofValue_record hnodup hversion

/-! ## Rendered configurations -/

theorem field?_version {g : Generation} {s : Selection} {p : Parameters} {d : ClusterDocument}
    (h : ClusterDocument.of s p = .ok d) :
    (d.tree g).field? field = some (.text s.version.tag) := by
  have hfield : (d.tree g).field? field = some (.text d.version.tag) :=
    (ClusterDocument.conforms_tree h).field? (by simp [field])
  obtain ⟨endpoint, -, hd⟩ := Results.bind_eq_ok_iff.mp h
  cases hd
  exact hfield

/-- An object with a document in its place has the version of this document. -/
theorem read_of_entry {json text : String} {m : ConfigMap} {v : Version}
    (hobject : (Json.parse json).bind ConfigMap.ofData = .ok m)
    (hentry : m.entry? Kubectl.storedConfig.entry = some text)
    (hdocument : ofDocument text = .ok v.tag) : read json = .ok v := by
  have hplace : document m = .ok text := by simp only [document, hentry]
  have hversion : Version.read v.tag = .ok v := by
    rw [Version.read, Version.parse_tag]
    rfl
  rw [read, hobject]
  change (document m >>= fun d => (ofDocument d).mapError (.unreadable .yaml) >>= Version.read) = _
  rw [hplace]
  change (ofDocument text).mapError (.unreadable .yaml) >>= Version.read = _
  rw [hdocument]
  exact hversion

/-- **The version of a rendered configuration is read back.** The text of the configuration of a
first node has a document of the kind `ClusterConfiguration` behind its first line of dashes. An
object that holds this document has the version that it was rendered for, whatever the settings
hold. -/
theorem read_rendered {s : Selection} {p : Parameters} {r : Rendering}
    (h : Rendering.init s p = .ok r) :
    ∃ first cluster agent, Rendering.initTrees s p = .ok (first :: cluster :: agent) ∧
      Rendering.StandApart isBreak r.text (first :: cluster :: agent) ∧
      cluster.IsOf s.generation.apiVersion "ClusterConfiguration" ∧
      ∀ json m, (Json.parse json).bind ConfigMap.ofData = .ok m →
        m.entry? "ClusterConfiguration" = some (String.ofList cluster.write) →
        read json = .ok s.version := by
  obtain ⟨trees, htrees, rfl⟩ := Results.map_eq_ok_iff.mp h
  have htidy := Rendering.tidy_initTrees (Rendering.closing_isBreak p) htrees
  have hdocuments := htrees
  rw [Rendering.initTrees_eq] at hdocuments
  obtain ⟨first, -, hdocuments⟩ := Results.bind_eq_ok_iff.mp hdocuments
  obtain ⟨cluster, hcluster, rfl⟩ := Results.map_eq_ok_iff.mp hdocuments
  refine ⟨_, _, _, htrees,
    Rendering.standApart_assemble (by decide) (fun _ hc => hc) (by simp) htidy, rfl, ?_⟩
  intro json m hobject hentry
  have hsound := ClusterDocument.conforms_tree (g := s.generation) hcluster _ (self_mem_places _)
  exact read_of_entry hobject hentry
    (ofDocument_write (htidy _ (by simp)) hsound.nodup (field?_version hcluster))

/-- A cluster whose name looks like the field of the version, with an alternative name that holds
the lines of a further document: the object that keeps its document has the version of the
selection. -/
theorem read_rendered_of_lookalikes :
    let s : Selection := ⟨⟨1, 16, 3⟩, .v1beta2, false⟩
    let p : Parameters :=
      { advertiseAddress := "10.0.0.10"
        clusterName := some "kubernetesVersion: v9.9.9"
        certSans := ["a\nkubernetesVersion: v9.9.9\n---\nkind: ClusterConfiguration\n"] }
    ∃ r first cluster agent, Rendering.init s p = .ok r ∧
      Rendering.initTrees s p = .ok (first :: cluster :: agent) ∧
      read (String.ofList (ConfigMap.writeObject "ClusterConfiguration"
        (String.ofList cluster.write))) = .ok ⟨1, 16, 3⟩ := by
  intro s p
  obtain ⟨r, hr⟩ : ∃ r, Rendering.init s p = .ok r :=
    Results.exists_eq_ok_iff.mpr (by decide +kernel)
  obtain ⟨first, cluster, agent, htrees, -, -, hread⟩ := read_rendered hr
  exact ⟨r, first, cluster, agent, hr, htrees, hread _ _ (ConfigMap.ofData_written _ _) rfl⟩

end RecordedVersion

end NodeBootstrap
