import NodeBootstrap.Yaml.Basic
import NodeBootstrap.Document.Basic

/-!
# The places of a document

A document is taken apart into its parts, each with the way that leads to it.

* `Yaml.Step`, `Yaml.Place`, `Yaml.places`: steps into a tree, parts with the way to them, and all
  parts of a tree;
* `Yaml.fields`, `Yaml.keys`: the fields of a record and their names;
* `Yaml.entries`, `Yaml.fieldEntries`: the parts that have no parts of their own, which are what a
  document says;
* `Yaml.mem_places_record`, `Yaml.mem_places_list`: where the parts of a part are;
* `Yaml.forall_mem_places_record`, `Yaml.forall_mem_places_list`: what holds of all parts of a part;
* `Yaml.entries_record`, `Yaml.entries_list`: a record and a list say what their parts say.
-/

namespace NodeBootstrap.Yaml

/-- A step from a tree into one of its parts. -/
inductive Step where
  | field (key : String)
  | item (index : Nat)
deriving DecidableEq, Repr

/-- A part of a tree and the way that leads to it. -/
structure Place where
  path : List Step
  tree : Yaml

/-- The place, seen from one step further out. -/
def Place.under (step : Step) (place : Place) : Place := ⟨step :: place.path, place.tree⟩

mutual

/-- All parts of a tree, the tree itself first. -/
def places : Yaml → List Place
  | text s => [⟨[], text s⟩]
  | number n => [⟨[], number n⟩]
  | flag b => [⟨[], flag b⟩]
  | list items => ⟨[], list items⟩ :: itemPlaces 0 items
  | record fields => ⟨[], record fields⟩ :: fieldPlaces fields
termination_by structural y => y

/-- The parts of items of which the first has an index. -/
def itemPlaces (index : Nat) : List Yaml → List Place
  | [] => []
  | y :: ys => y.places.map (Place.under (.item index)) ++ itemPlaces (index + 1) ys
termination_by structural ys => ys

/-- The parts of fields. -/
def fieldPlaces : List (String × Yaml) → List Place
  | [] => []
  | f :: fs => placesOfField f ++ fieldPlaces fs
termination_by structural fs => fs

/-- The parts of one field. -/
def placesOfField : String × Yaml → List Place
  | (k, y) => y.places.map (Place.under (.field k))
termination_by structural f => f

end

/-- The fields of a record. -/
def fields : Yaml → List (String × Yaml)
  | record fs => fs
  | _ => []

/-- The names of the fields of a record. -/
def keys (y : Yaml) : List String := y.fields.map (·.1)

@[simp] theorem keys_record (fs : List (String × Yaml)) : (record fs).keys = fs.map (·.1) := rfl

@[simp] theorem keys_table (m : List (String × String)) : (table m).keys = m.map (·.1) := by
  rw [table, keys_record, List.map_map]
  rfl

@[simp] theorem keys_list (ys : List Yaml) : (list ys).keys = [] := rfl

/-! ## Parts of parts -/

theorem fieldPlaces_eq (fs : List (String × Yaml)) :
    fieldPlaces fs = fs.flatMap fun f => f.2.places.map (Place.under (.field f.1)) := by
  induction fs with
  | nil => rfl
  | cons f fs ih => rw [fieldPlaces, placesOfField, ih, List.flatMap_cons]

theorem mem_itemPlaces {ys : List Yaml} {index : Nat} {place : Place} :
    place ∈ itemPlaces index ys ↔
      ∃ (i : Nat) (y : Yaml), ys[i]? = some y ∧
        ∃ inner ∈ y.places, place = inner.under (.item (index + i)) := by
  induction ys generalizing index with
  | nil => simp [itemPlaces]
  | cons y ys ih =>
    rw [itemPlaces, List.mem_append, List.mem_map, ih]
    constructor
    · rintro (⟨inner, hinner, rfl⟩ | ⟨i, z, hz, inner, hinner, rfl⟩)
      · exact ⟨0, y, rfl, inner, hinner, rfl⟩
      · exact ⟨i + 1, z, hz, inner, hinner, by rw [Nat.add_assoc, Nat.add_comm 1]⟩
    · rintro ⟨_ | i, z, hz, inner, hinner, rfl⟩
      · obtain rfl : y = z := Option.some.inj hz
        exact Or.inl ⟨inner, hinner, rfl⟩
      · exact Or.inr ⟨i, z, hz, inner, hinner, by rw [Nat.add_assoc, Nat.add_comm 1]⟩

theorem mem_places_record {fs : List (String × Yaml)} {place : Place} :
    place ∈ (record fs).places ↔ place = ⟨[], record fs⟩ ∨
      ∃ f ∈ fs, ∃ inner ∈ f.2.places, place = inner.under (.field f.1) := by
  rw [places, fieldPlaces_eq, List.mem_cons, List.mem_flatMap]
  simp only [List.mem_map, eq_comm]

theorem mem_places_list {ys : List Yaml} {place : Place} :
    place ∈ (list ys).places ↔ place = ⟨[], list ys⟩ ∨
      ∃ (i : Nat) (y : Yaml), ys[i]? = some y ∧
        ∃ inner ∈ y.places, place = inner.under (.item i) := by
  rw [places, List.mem_cons, mem_itemPlaces]
  simp only [Nat.zero_add]

theorem self_mem_places (y : Yaml) : ⟨[], y⟩ ∈ y.places := by
  cases y <;> simp [places]

/-- The places of an item are places of the list. -/
theorem mem_places_of_item {ys : List Yaml} {i : Nat} {y : Yaml} (hy : ys[i]? = some y)
    {place : Place} (hplace : place ∈ y.places) : place.under (.item i) ∈ (list ys).places :=
  mem_places_list.mpr (Or.inr ⟨i, y, hy, place, hplace, rfl⟩)

/-- The places of a field are places of the record. -/
theorem mem_places_of_field {y z : Yaml} {key : String} (hf : (key, z) ∈ y.fields)
    {place : Place} (hplace : place ∈ z.places) : place.under (.field key) ∈ y.places := by
  cases y with
  | record fs => exact mem_places_record.mpr (Or.inr ⟨_, hf, place, hplace, rfl⟩)
  | _ => cases hf

theorem forall_mem_places_list {P : Place → Prop} {ys : List Yaml} :
    (∀ place ∈ (list ys).places, P place) ↔ P ⟨[], list ys⟩ ∧
      ∀ (i : Nat) (y : Yaml), ys[i]? = some y → ∀ place ∈ y.places, P (place.under (.item i)) := by
  constructor
  · exact fun h => ⟨h _ (self_mem_places _), fun i y hy place hplace =>
      h _ (mem_places_of_item hy hplace)⟩
  · rintro ⟨hself, hitems⟩ place hplace
    rcases mem_places_list.mp hplace with rfl | ⟨i, y, hy, inner, hinner, rfl⟩
    · exact hself
    · exact hitems i y hy inner hinner

theorem forall_mem_places_record {P : Place → Prop} {fs : List (String × Yaml)} :
    (∀ place ∈ (record fs).places, P place) ↔ P ⟨[], record fs⟩ ∧
      ∀ f ∈ fs, ∀ place ∈ f.2.places, P (place.under (.field f.1)) := by
  constructor
  · exact fun h => ⟨h _ (self_mem_places _), fun f hf place hplace =>
      h _ (mem_places_of_field hf hplace)⟩
  · rintro ⟨hself, hfields⟩ place hplace
    rcases mem_places_record.mp hplace with rfl | ⟨f, hf, inner, hinner, rfl⟩
    · exact hself
    · exact hfields f hf inner hinner

/-! ## What a document says -/

/-- A tree without parts of its own. -/
def isLeaf : Yaml → Bool
  | text _ => true
  | number _ => true
  | flag _ => true
  | list items => items.isEmpty
  | record fields => fields.isEmpty

/-- What a document says, and where. -/
def entries (y : Yaml) : List Place := y.places.filter (·.tree.isLeaf)

/-- What fields say. -/
def fieldEntries (fs : List (String × Yaml)) : List Place :=
  fs.flatMap fun f => f.2.entries.map (Place.under (.field f.1))

/-- What items say of which the first has an index. -/
def itemEntries (index : Nat) : List Yaml → List Place
  | [] => []
  | y :: ys => y.entries.map (Place.under (.item index)) ++ itemEntries (index + 1) ys

theorem filter_map_under (step : Step) (l : List Place) :
    (l.map (Place.under step)).filter (·.tree.isLeaf) =
      (l.filter (·.tree.isLeaf)).map (Place.under step) := List.filter_map

/-- A record says what its fields say. -/
theorem entries_record {fs : List (String × Yaml)} (h : fs ≠ []) :
    (record fs).entries = fieldEntries fs := by
  have hself : (record fs).isLeaf = false := by simpa [isLeaf] using h
  rw [entries, places, fieldPlaces_eq, List.filter_cons_of_neg (by simp [hself]), fieldEntries,
    List.filter_flatMap]
  simp only [filter_map_under, entries]

theorem filter_itemPlaces (ys : List Yaml) (index : Nat) :
    (itemPlaces index ys).filter (·.tree.isLeaf) = itemEntries index ys := by
  induction ys generalizing index with
  | nil => rfl
  | cons y ys ih => rw [itemPlaces, itemEntries, List.filter_append, filter_map_under, ih, entries]

/-- A list says what its items say. -/
theorem entries_list {ys : List Yaml} (h : ys ≠ []) : (list ys).entries = itemEntries 0 ys := by
  have hself : (list ys).isLeaf = false := by simpa [isLeaf] using h
  rw [entries, places, List.filter_cons_of_neg (by simp [hself]), filter_itemPlaces]

@[simp] theorem fieldEntries_nil : fieldEntries [] = [] := rfl

@[simp] theorem fieldEntries_append (fs gs : List (String × Yaml)) :
    fieldEntries (fs ++ gs) = fieldEntries fs ++ fieldEntries gs := List.flatMap_append

@[simp] theorem fieldEntries_cons (f : String × Yaml) (fs : List (String × Yaml)) :
    fieldEntries (f :: fs) = f.2.entries.map (Place.under (.field f.1)) ++ fieldEntries fs :=
  List.flatMap_cons

end NodeBootstrap.Yaml
