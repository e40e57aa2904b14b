import NodeBootstrap.Proofs.Documents
import NodeBootstrap.Proofs.Names
import NodeBootstrap.Proofs.Places
import Mathlib.Logic.Basic

/-!
# Sound trees

A tree is sound for a generation when all its parts are: they have only fields of the generation,
none of them twice, and are empty only where that is free.

* `Generation.lacks`: the names of fields that a generation does not have;
* `Yaml.Sound`, `Yaml.SoundBut`: what holds of one part of a tree, and of all of them;
* `Yaml.soundBut_list`, `Yaml.soundBut_record`: a tree is sound when its parts are;
* `Yaml.SoundFields`: fields with names from a list, sound in all their parts;
* `Yaml.SoundFields.record`: a record of sound fields.
-/

namespace NodeBootstrap

variable {g : Generation}

/-! ## Names of fields -/

namespace Generation

/-- A field of the first generation only. -/
def isFlatField (key : String) : Bool :=
  ["apiEndpoint", "apiServerCertSANs", "writable"].contains key ||
    ["apiServerExtra", "controllerManagerExtra", "discoveryToken"].any fun start =>
      start.toList.isPrefixOf key.toList

/-- A field of the later generations only. -/
def isGroupedField (key : String) : Bool :=
  ["localAPIEndpoint", "apiServer", "controllerManager", "readOnly", "discovery"].contains key

/-- The names of fields that a generation does not have. -/
def lacks : Generation → String → Bool
  | v1alpha3, key => isGroupedField key || key == "certificateKey"
  | v1beta1, key => isFlatField key || key == "certificateKey"
  | v1beta2, key => isFlatField key

/-- Different names, none of them of a field that the generation does not have. -/
def Admits (g : Generation) (names : List String) : Prop :=
  names.Nodup ∧ ∀ name ∈ names, g.lacks name = false

instance (g : Generation) (names : List String) : Decidable (g.Admits names) :=
  inferInstanceAs (Decidable (_ ∧ _))

end Generation

/-! ## Sound parts -/

namespace Yaml

/-- The fields that hold mounts. -/
def mountFields : List String :=
  ["extraVolumes", "apiServerExtraVolumes", "controllerManagerExtraVolumes"]

/-- A list of mounts, each of which says either what may be written or what may not. -/
def Mounts (y : Yaml) : Prop :=
  ∃ items, y = list items ∧ ∀ item ∈ items, Xor ("writable" ∈ item.keys) ("readOnly" ∈ item.keys)

/-- A part of a document in a generation, which may be empty only where that is free. -/
structure Sound (g : Generation) (free : Prop) (y : Yaml) : Prop where
  known : ∀ key ∈ y.keys, g.lacks key = false
  nodup : y.keys.Nodup
  mounts : ∀ f ∈ y.fields, f.1 ∈ mountFields → f.2.Mounts
  filled : y = list [] ∨ y = record [] → free

/-- Every part of a document is sound, and empty only where that is free. -/
def SoundBut (g : Generation) (free : List Step → Prop) (y : Yaml) : Prop :=
  ∀ place ∈ y.places, place.tree.Sound g (free place.path)

section SoundBut

variable {free : List Step → Prop} {names names' : List String}

theorem soundBut_scalar {y : Yaml} (hplaces : y.places = [⟨[], y⟩]) (hfields : y.fields = [])
    (hfilled : ¬(y = list [] ∨ y = record [])) : y.SoundBut g free := by
  intro place hplace
  rw [hplaces] at hplace
  obtain rfl := List.mem_singleton.mp hplace
  exact ⟨by simp [keys, hfields], by simp [keys, hfields], by simp [hfields], by simp [hfilled]⟩

theorem soundBut_text (s : String) : (text s).SoundBut g free :=
  soundBut_scalar rfl rfl (by simp)

theorem soundBut_number (n : Nat) : (number n).SoundBut g free :=
  soundBut_scalar rfl rfl (by simp)

theorem soundBut_flag (b : Bool) : (flag b).SoundBut g free :=
  soundBut_scalar rfl rfl (by simp)

theorem soundBut_list {ys : List Yaml} (hempty : ys = [] → free [])
    (hitems : ∀ y ∈ ys, ∀ free, y.SoundBut g free) : (list ys).SoundBut g free := by
  refine forall_mem_places_list.mpr ⟨?_, fun i y hy => ?_⟩
  · exact ⟨by simp, by simp, by simp [fields], by simpa using hempty⟩
  · exact hitems y (List.mem_of_getElem? hy) fun path => free (.item i :: path)

theorem soundBut_record {fs : List (String × Yaml)} (hself : (record fs).Sound g (free []))
    (hfields : ∀ f ∈ fs, f.2.SoundBut g fun path => free (.field f.1 :: path)) :
    (record fs).SoundBut g free := forall_mem_places_record.mpr ⟨hself, hfields⟩

/-! ## Sound fields -/

/-- Fields with names from a list, sound in all their parts. -/
structure SoundFields (g : Generation) (free : List Step → Prop) (names : List String)
    (fs : List (String × Yaml)) : Prop where
  named : Named names fs
  sound : ∀ f ∈ fs, f.2.SoundBut g fun path => free (.field f.1 :: path)
  mounts : ∀ f ∈ fs, f.1 ∈ mountFields → f.2.Mounts

theorem SoundFields.record {fs : List (String × Yaml)} (h : SoundFields g free names fs)
    (hnames : g.Admits names) (hne : fs ≠ []) : (Yaml.record fs).SoundBut g free := by
  refine soundBut_record ⟨fun key hkey => ?_, h.named.nodup hnames.1, h.mounts, ?_⟩ h.sound
  · exact hnames.2 key (h.named.subset hkey)
  · simp [hne]

theorem SoundFields.append {fs fs' : List (String × Yaml)} (h : SoundFields g free names fs)
    (h' : SoundFields g free names' fs') : SoundFields g free (names ++ names') (fs ++ fs') where
  named := h.named.append h'.named
  sound f hf := (List.mem_append.mp hf).elim (h.sound f) (h'.sound f)
  mounts f hf := (List.mem_append.mp hf).elim (h.mounts f) (h'.mounts f)

namespace SoundFields

variable {key : String}

theorem none_of (names : List String) : SoundFields g free names [] where
  named := Named.none_of names
  sound := by simp
  mounts := by simp

theorem single {y : Yaml} (hkey : key ∉ mountFields)
    (h : y.SoundBut g fun path => free (.field key :: path)) :
    SoundFields g free [key] [(key, y)] where
  named := Named.single y
  sound f hf := by
    obtain rfl := List.mem_singleton.mp hf
    exact h
  mounts f hf hmem := by
    obtain rfl := List.mem_singleton.mp hf
    exact absurd hmem hkey

theorem optional {value : Option Yaml} (hkey : key ∉ mountFields)
    (h : ∀ y, value = some y → y.SoundBut g fun path => free (.field key :: path)) :
    SoundFields g free [key] (Yaml.optional key value) := by
  rcases value with _ | y
  · exact none_of _
  · exact single hkey (h y rfl)

theorem optionalText (key : String) (value : Option String) (hkey : key ∉ mountFields) :
    SoundFields g free [key] (Yaml.optionalText key value) :=
  optional hkey fun y hy => by
    obtain ⟨s, -, rfl⟩ := Option.map_eq_some_iff.mp hy
    exact soundBut_text s

theorem unlessEmpty {α : Type} {values : List α} {tree : List α → Yaml} (hkey : key ∉ mountFields)
    (h : values ≠ [] → (tree values).SoundBut g fun path => free (.field key :: path)) :
    SoundFields g free [key] (Yaml.unlessEmpty key values tree) := by
  rcases values with _ | ⟨v, vs⟩
  · exact none_of _
  · exact single hkey (h (List.cons_ne_nil v vs))

theorem heading (apiVersion kind : String) :
    SoundFields g free ["apiVersion", "kind"] (heading apiVersion kind) :=
  (single (by decide) (soundBut_text apiVersion)).append
    (single (by decide) (soundBut_text kind))

end SoundFields

/-! ## Sound values -/

theorem soundBut_texts {xs : List String} (h : xs ≠ []) : (texts xs).SoundBut g free :=
  soundBut_list (by simp [h]) fun y hy free => by
    obtain ⟨s, -, rfl⟩ := List.mem_map.mp hy
    exact soundBut_text s

theorem soundBut_table {m : Arguments} (hwithin : m.Within names) (hnames : g.Admits names)
    (hmounts : ∀ name ∈ names, name ∉ mountFields) (hne : m ≠ []) :
    (table m).SoundBut g free := by
  have hkeys : ∀ key ∈ (table m).keys, key ∈ names := by
    rw [keys_table]
    exact hwithin.subset
  refine soundBut_record
    ⟨fun key hkey => hnames.2 key (hkeys key hkey), ?_, fun f hf hmem => ?_, ?_⟩
    fun f hf => ?_
  · exact (keys_table m).symm ▸ hwithin.nodup
  · exact absurd hmem (hmounts f.1 (hkeys f.1 (List.mem_map_of_mem hf)))
  · simp [hne]
  · obtain ⟨pair, -, rfl⟩ := List.mem_map.mp hf
    exact soundBut_text pair.2

/-! ## Values of fields -/

theorem field?_of_mem {fs : List (String × Yaml)} {key : String} {y : Yaml}
    (hnodup : (fs.map (·.1)).Nodup) (hmem : (key, y) ∈ fs) : (record fs).field? key = some y := by
  induction fs with
  | nil => cases hmem
  | cons f fs ih =>
    obtain ⟨hnotin, hrest⟩ := List.nodup_cons.mp hnodup
    rcases List.mem_cons.mp hmem with rfl | hmem
    · simp [field?]
    · have hne : f.1 ≠ key := fun heq =>
        hnotin (List.mem_map.mpr ⟨(key, y), hmem, heq.symm⟩)
      have hfind := ih hrest hmem
      rw [field?] at hfind ⊢
      rw [List.find?_cons_of_neg (by simpa using hne), hfind]

/-- A sound record has the value of each of its fields. -/
theorem SoundBut.field? {fs : List (String × Yaml)}
    (h : (record fs).SoundBut g free) {key : String} {y : Yaml} (hmem : (key, y) ∈ fs) :
    (record fs).field? key = some y :=
  field?_of_mem (h _ (self_mem_places _)).nodup hmem

end SoundBut

end Yaml

end NodeBootstrap
