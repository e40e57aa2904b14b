import NodeBootstrap.Proofs.Names
import NodeBootstrap.Proofs.Places

/-!
# Documents under other names

What a document says may be said by another one in other places.

* `Yaml.Renaming`, `Yaml.restate`: where a field is kept instead, and what becomes of its entries;
* `Yaml.Restates`: a document says what another one says, under renamings, and some more;
* `Yaml.restated_of_unnamed`, `Yaml.restated_unlessEmpty`: the entries of fields under renamings;
* `Yaml.fieldEntries_group`, `Yaml.fieldEntries_table`: the entries of a group of fields.
-/

namespace NodeBootstrap.Yaml

/-- The place, seen from the start of a way to it. -/
def Place.along (way : List Step) (place : Place) : Place := ⟨way ++ place.path, place.tree⟩

/-- What becomes of a field: the way to where it is kept instead, and what becomes of its entries
there. -/
structure Renaming where
  key : String
  way : List Step
  say : Place → Option Place

/-- What becomes of a field by its name. A field without a renaming stays as it is. -/
def Renaming.find (rs : List Renaming) (key : String) : Renaming :=
  (rs.find? (·.key == key)).getD ⟨key, [.field key], some⟩

/-- What becomes of an entry. -/
def restate (rs : List Renaming) (place : Place) : Option Place :=
  match place.path with
  | .field key :: path =>
    ((Renaming.find rs key).say ⟨path, place.tree⟩).map (Place.along (Renaming.find rs key).way)
  | _ => some place

/-- What becomes of the entries of fields. -/
def restated (rs : List Renaming) (fs : List (String × Yaml)) : List Place :=
  (fieldEntries fs).filterMap (restate rs)

/-- A document says what another one says, under renamings, and some more. -/
def Restates (rs : List Renaming) (more : List Place) (old new : Yaml) : Prop :=
  (old.entries.filterMap (restate rs) ++ more).Perm new.entries

/-! ## What becomes of an entry -/

/-- It says something else. -/
def said (y : Yaml) (place : Place) : Option Place := some ⟨place.path, y⟩

/-- One of the fields around it has another name. -/
def renamed (old new : String) (place : Place) : Option Place :=
  match place.path with
  | .field key :: path => some ⟨.field (if key = old then new else key) :: path, place.tree⟩
  | _ => some place

/-- In an item of a list a flag has another name and the opposite value. -/
def opposed (old new : String) (place : Place) : Option Place :=
  match place with
  | ⟨[.item i, .field key], flag b⟩ =>
    if key = old then some ⟨[.item i, .field new], flag !b⟩ else some place
  | _ => some place

/-- The first item of a list stands for the list. -/
def unwrapped (place : Place) : Option Place :=
  match place.path with
  | .item 0 :: path => some ⟨path, place.tree⟩
  | _ => some place

/-- A flag that is set goes without saying. -/
def implied (place : Place) : Option Place :=
  match place with
  | ⟨[], flag true⟩ => none
  | _ => some place

/-! ## What becomes of fields -/

variable {α : Type} {rs : List Renaming} {key : String}

theorem Renaming.find_of_unnamed (h : key ∉ rs.map (·.key)) :
    find rs key = ⟨key, [.field key], some⟩ := by
  have hnone : rs.find? (·.key == key) = none := by
    rw [List.find?_eq_none]
    intro r hr heq
    exact h (List.mem_map.mpr ⟨r, hr, eq_of_beq heq⟩)
  rw [find, hnone]
  rfl

@[simp] theorem restated_nil : restated rs [] = [] := rfl

@[simp] theorem restated_append (fs gs : List (String × Yaml)) :
    restated rs (fs ++ gs) = restated rs fs ++ restated rs gs := by
  rw [restated, fieldEntries_append, List.filterMap_append]
  rfl

theorem restated_single (key : String) (y : Yaml) : restated rs [(key, y)] =
    (y.entries.filterMap (Renaming.find rs key).say).map
      (Place.along (Renaming.find rs key).way) := by
  rw [restated, fieldEntries_cons, fieldEntries_nil, List.append_nil, List.filterMap_map,
    List.map_filterMap]
  rfl

theorem restated_cons (key : String) (y : Yaml) (fs : List (String × Yaml)) :
    restated rs ((key, y) :: fs) = restated rs [(key, y)] ++ restated rs fs :=
  restated_append [(key, y)] fs

/-- Fields that no renaming names stay as they are. -/
theorem restated_of_unnamed {fs : List (String × Yaml)}
    (h : ∀ f ∈ fs, f.1 ∉ rs.map (·.key)) : restated rs fs = fieldEntries fs := by
  induction fs with
  | nil => rfl
  | cons f fs ih =>
    obtain ⟨hf, hfs⟩ := List.forall_mem_cons.mp h
    rw [restated_cons, ih hfs, restated_single, Renaming.find_of_unnamed hf, fieldEntries_cons]
    rw [List.filterMap_some]
    rfl

/-- Fields whose names are some of a list that no renaming names stay as they are. -/
theorem restated_of_named {names : List String} {fs : List (String × Yaml)} (hfs : Named names fs)
    (hnames : ∀ name ∈ names, name ∉ rs.map (·.key)) : restated rs fs = fieldEntries fs :=
  restated_of_unnamed fun _ hf => hnames _ (hfs.mem hf)

/-- A field that is kept under another name on some way. -/
theorem restated_field {new : String} {way : List Step} {say : Place → Option Place} {y y' : Yaml}
    (hfind : Renaming.find rs key = ⟨key, way ++ [.field new], say⟩)
    (h : y.entries.filterMap say = y'.entries) :
    restated rs [(key, y)] = (fieldEntries [(new, y')]).map (Place.along way) := by
  rw [restated_single, hfind, h, fieldEntries_cons, fieldEntries_nil, List.append_nil,
    List.map_map]
  refine List.map_congr_left fun place _ => ?_
  simp [Place.along, Place.under]

/-- A field that is kept under another name on some way, when there is one. -/
theorem restated_unlessEmpty {new : String} {way : List Step} {say : Place → Option Place}
    {values : List α} {tree tree' : List α → Yaml}
    (hfind : Renaming.find rs key = ⟨key, way ++ [.field new], say⟩)
    (h : values ≠ [] → (tree values).entries.filterMap say = (tree' values).entries) :
    restated rs (unlessEmpty key values tree) =
      (fieldEntries (unlessEmpty new values tree')).map (Place.along way) := by
  rcases values with _ | ⟨v, vs⟩
  · rfl
  · exact restated_field hfind (h (List.cons_ne_nil v vs))

@[simp] theorem map_along_nil (places : List Place) : places.map (Place.along []) = places :=
  List.map_id' places

/-- A record says what another one says when its fields do. -/
theorem restates_record {fs gs : List (String × Yaml)} {more : List Place} (hfs : fs ≠ [])
    (hgs : gs ≠ []) (h : (restated rs fs ++ more).Perm (fieldEntries gs)) :
    Restates rs more (record fs) (record gs) := by
  rw [Restates, entries_record hfs, entries_record hgs]
  exact h

/-! ## Groups -/

/-- A group says what its fields say. -/
theorem fieldEntries_group (key : String) (fs : List (String × Yaml)) :
    fieldEntries (unlessEmpty key fs record) =
      (fieldEntries fs).map (Place.along [.field key]) := by
  rcases fs with _ | ⟨f, fs⟩
  · rfl
  · rw [unlessEmpty, fieldEntries_cons, entries_record (List.cons_ne_nil f fs), fieldEntries_nil,
      List.append_nil]
    rfl

theorem entries_table {m : List (String × String)} (h : m ≠ []) :
    (table m).entries = m.map fun a => ⟨[.field a.1], text a.2⟩ := by
  rw [table, entries_record (by simpa using h)]
  clear h
  induction m with
  | nil => rfl
  | cons a m ih =>
    rw [List.map_cons, fieldEntries_cons, ih]
    rfl

theorem fieldEntries_table (key : String) (m : List (String × String)) :
    fieldEntries (unlessEmpty key m table) =
      m.map fun a => ⟨[.field key, .field a.1], text a.2⟩ := by
  rcases m with _ | ⟨a, m⟩
  · rfl
  · rw [unlessEmpty, fieldEntries_cons, entries_table (List.cons_ne_nil a m), fieldEntries_nil,
      List.append_nil, List.map_map]
    rfl

end NodeBootstrap.Yaml
