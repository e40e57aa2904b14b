import NodeBootstrap.Proofs.Documents
import NodeBootstrap.Proofs.Names
import NodeBootstrap.Proofs.Places

/-!
# Filled trees

A tree is filled when it has no empty text, and no field without a name, but where that is free.

* `Yaml.FilledBut`, `Yaml.Filled`: trees that are filled up to some places, and everywhere;
* `Yaml.filledBut_text_iff`, `Yaml.filledBut_list_iff`, `Yaml.filledBut_record_iff`: a tree is
  filled when its parts are;
* `Yaml.FilledFields.append`, `Yaml.FilledFields.optional`, …: fields that may be left out.
-/

namespace NodeBootstrap.Yaml

/-- A tree without empty texts, but where that is free, and without fields that have no name. -/
def FilledBut (free : List Step → Prop) (y : Yaml) : Prop :=
  ∀ place ∈ y.places, (place.tree = text "" → free place.path) ∧ "" ∉ place.tree.keys

/-- A tree without empty texts. -/
def Filled (y : Yaml) : Prop := y.FilledBut fun _ => False

section Filled

variable {free : List Step → Prop}

theorem FilledBut.mono {free' : List Step → Prop} {y : Yaml} (h : y.FilledBut free)
    (hfree : ∀ path, free path → free' path) : y.FilledBut free' :=
  fun place hplace => ⟨fun hempty => hfree _ ((h place hplace).1 hempty), (h place hplace).2⟩

theorem Filled.but {y : Yaml} (h : y.Filled) : y.FilledBut free := h.mono fun _ => False.elim

theorem filledBut_text_iff {s : String} : (text s).FilledBut free ↔ (s = "" → free []) := by
  simp [FilledBut, places, keys, fields]

theorem filled_text {s : String} (h : s ≠ "") : (text s).FilledBut free :=
  filledBut_text_iff.mpr fun hempty => absurd hempty h

theorem filledBut_number (n : Nat) : (number n).FilledBut free := by
  simp [FilledBut, places, keys, fields]

theorem filledBut_flag (b : Bool) : (flag b).FilledBut free := by
  simp [FilledBut, places, keys, fields]

theorem mem_fields_of_field? {y z : Yaml} {key : String} (h : y.field? key = some z) :
    (key, z) ∈ y.fields := by
  cases y with
  | record fs =>
    obtain ⟨f, hf, rfl⟩ := Option.map_eq_some_iff.mp h
    obtain rfl : f.1 = key := by simpa using List.find?_some hf
    exact List.mem_of_find?_eq_some hf
  | _ => cases h

theorem filledBut_list_iff {ys : List Yaml} : (list ys).FilledBut free ↔
    ∀ (i : Nat) (y : Yaml), ys[i]? = some y → y.FilledBut fun path => free (.item i :: path) :=
  forall_mem_places_list.trans (and_iff_right (by simp))

/-- Fields with names that are filled. -/
def FilledFields (free : List Step → Prop) (fs : List (String × Yaml)) : Prop :=
  ∀ f ∈ fs, f.1 ≠ "" ∧ f.2.FilledBut fun path => free (.field f.1 :: path)

theorem filledBut_record_iff {fs : List (String × Yaml)} :
    (record fs).FilledBut free ↔ FilledFields free fs := by
  have hkeys : "" ∉ (Yaml.record fs).keys ↔ ∀ f ∈ fs, f.1 ≠ "" := by
    simp only [keys_record, List.mem_map, not_exists, not_and, ne_eq]
  constructor
  · intro h
    obtain ⟨⟨-, hself⟩, hfields⟩ := forall_mem_places_record.mp h
    exact fun f hf => ⟨hkeys.mp hself f hf, hfields f hf⟩
  · intro h
    have hself : "" ∉ (Yaml.record fs).keys := hkeys.mpr fun f hf => (h f hf).1
    exact forall_mem_places_record.mpr
      ⟨⟨fun hempty => (nomatch hempty), hself⟩, fun f hf => (h f hf).2⟩

/-! ## Fields that may be left out -/

namespace FilledFields

variable {key : String} {fs fs' : List (String × Yaml)}

theorem record (h : FilledFields free fs) : (Yaml.record fs).FilledBut free :=
  filledBut_record_iff.mpr h

theorem append (h : FilledFields free fs) (h' : FilledFields free fs') :
    FilledFields free (fs ++ fs') := List.forall_mem_append.mpr ⟨h, h'⟩

theorem none_of : FilledFields free [] := by simp [FilledFields]

theorem single {y : Yaml} (hkey : key ≠ "")
    (h : y.FilledBut fun path => free (.field key :: path)) : FilledFields free [(key, y)] :=
  List.forall_mem_singleton.mpr ⟨hkey, h⟩

theorem text {s : String} (hkey : key ≠ "") (hs : s ≠ "") : FilledFields free [(key, .text s)] :=
  single hkey (filled_text hs)

theorem flag (hkey : key ≠ "") (b : Bool) : FilledFields free [(key, .flag b)] :=
  single hkey (filledBut_flag b)

theorem optional {value : Option Yaml} (hkey : key ≠ "")
    (h : ∀ y, value = some y → y.FilledBut fun path => free (.field key :: path)) :
    FilledFields free (Yaml.optional key value) :=
  forall_mem_optional.mpr fun y hy => ⟨hkey, h y hy⟩

theorem optionalText {value : Option String} (hkey : key ≠ "")
    (h : ∀ s, value = some s → s ≠ "") : FilledFields free (Yaml.optionalText key value) :=
  forall_mem_optionalText.mpr fun s hs => ⟨hkey, filled_text (h s hs)⟩

theorem unlessEmpty {α : Type} {values : List α} {tree : List α → Yaml} (hkey : key ≠ "")
    (h : (tree values).FilledBut fun path => free (.field key :: path)) :
    FilledFields free (Yaml.unlessEmpty key values tree) :=
  forall_mem_unlessEmpty.mpr fun _ => ⟨hkey, h⟩

theorem heading {apiVersion kind : String} (hversion : apiVersion ≠ "") (hkind : kind ≠ "") :
    FilledFields free (heading apiVersion kind) :=
  (text (by decide) hversion).append (text (by decide) hkind)

end FilledFields

/-! ## Lists and tables of texts -/

theorem filledBut_list {ys : List Yaml} (h : ∀ y ∈ ys, y.Filled) : (list ys).FilledBut free :=
  filledBut_list_iff.mpr fun _ y hy => (h y (List.mem_of_getElem? hy)).but

theorem filled_texts {xs : List String} (h : ∀ x ∈ xs, x ≠ "") : (texts xs).FilledBut free :=
  filledBut_list fun y hy => by
    obtain ⟨x, hx, rfl⟩ := List.mem_map.mp hy
    exact filled_text (h x hx)

theorem filled_table {m : List (String × String)} (h : ∀ a ∈ m, a.1 ≠ "" ∧ a.2 ≠ "") :
    (table m).FilledBut free :=
  FilledFields.record fun f hf => by
    obtain ⟨a, ha, rfl⟩ := List.mem_map.mp hf
    exact ⟨(h a ha).1, filled_text (h a ha).2⟩

end Filled

end NodeBootstrap.Yaml
