import NodeBootstrap.Document.Content
import NodeBootstrap.Document.Layout

/-!
# Names of fields and arguments

Fields and arguments that may be left out have their names in a fixed order.

* `Named`: the names are some of a list of names, in its order;
* `Named.append`, `Named.nodup`, `Named.mem`: names of several parts, and what follows for them;
* `named_optional`, `named_unlessEmpty`, `named_argument`, …: the names of what may be left out;
* `forall_mem_optional`, `forall_mem_argument`, …: what holds of what may be left out;
* `Arguments.perm_ofList`, `Arguments.mem_of_mem_ofList`: arguments of different names are all kept,
  and none are made up;
* `Arguments.Within`: arguments of different names, all of them from a list of names.
-/

namespace NodeBootstrap

variable {α : Type}

/-- The names are some of a list of names, in its order. -/
def Named (names : List String) (fields : List (String × α)) : Prop :=
  (fields.map (·.1)).Sublist names

namespace Named

variable {names names' : List String} {fields fields' : List (String × α)} {name : String}

theorem append (h : Named names fields) (h' : Named names' fields') :
    Named (names ++ names') (fields ++ fields') := by
  rw [Named, List.map_append]
  exact List.Sublist.append h h'

theorem single (value : α) : Named [name] [(name, value)] := List.Sublist.refl [name]

theorem none_of (names : List String) : Named names ([] : List (String × α)) :=
  List.nil_sublist names

theorem nodup (h : Named names fields) (hnames : names.Nodup) : (fields.map (·.1)).Nodup :=
  List.Sublist.nodup h hnames

theorem mem (h : Named names fields) {field : String × α} (hmem : field ∈ fields) :
    field.1 ∈ names := List.Sublist.mem (List.mem_map_of_mem hmem) h

theorem not_mem (h : Named names fields) (hname : name ∉ names) : name ∉ fields.map (·.1) :=
  mt (fun hmem => h.subset hmem) hname

end Named

/-! ## Fields that may be left out -/

namespace Yaml

theorem named_optional (key : String) (value : Option Yaml) :
    Named [key] (optional key value) := by
  rcases value with _ | y
  · exact Named.none_of _
  · exact Named.single y

theorem named_optionalText (key : String) (value : Option String) :
    Named [key] (optionalText key value) := named_optional key _

theorem named_unlessEmpty (key : String) (values : List α) (tree : List α → Yaml) :
    Named [key] (unlessEmpty key values tree) := by
  rcases values with _ | ⟨v, vs⟩
  · exact Named.none_of _
  · exact Named.single _

section

variable {P : String × Yaml → Prop} {key : String}

theorem forall_mem_optional {value : Option Yaml} :
    (∀ f ∈ optional key value, P f) ↔ ∀ y, value = some y → P (key, y) := by
  rcases value with _ | y <;> simp [optional]

theorem forall_mem_optionalText {value : Option String} :
    (∀ f ∈ optionalText key value, P f) ↔ ∀ s, value = some s → P (key, text s) := by
  rcases value with _ | s <;> simp [optionalText, optional]

theorem forall_mem_unlessEmpty {values : List α} {tree : List α → Yaml} :
    (∀ f ∈ unlessEmpty key values tree, P f) ↔ (values ≠ [] → P (key, tree values)) := by
  rcases values with _ | ⟨v, vs⟩ <;> simp [unlessEmpty]

end

end Yaml

/-! ## Arguments that may be left out -/

theorem named_argument (name : String) (value : Option String) :
    Named [name] (argument name value) := by
  rcases value with _ | v
  · exact Named.none_of _
  · exact Named.single v

theorem named_listArgument (name : String) (values : List String) :
    Named [name] (listArgument name values) := by
  rcases values with _ | ⟨v, vs⟩
  · exact Named.none_of _
  · exact Named.single _

section

variable {P : String × String → Prop} {name : String}

theorem forall_mem_argument {value : Option String} :
    (∀ a ∈ argument name value, P a) ↔ ∀ v, value = some v → P (name, v) := by
  rcases value with _ | v <;> simp [argument]

theorem forall_mem_listArgument {values : List String} :
    (∀ a ∈ listArgument name values, P a) ↔ (values ≠ [] → P (name, Text.glue "," values)) := by
  rcases values with _ | ⟨v, vs⟩ <;> simp [listArgument]

end

namespace Arguments

theorem perm_insert (name value : String) (m : Arguments) (h : name ∉ m.map (·.1)) :
    (insert name value m).Perm ((name, value) :: m) := by
  induction m with
  | nil => exact List.Perm.refl _
  | cons first m ih =>
    obtain ⟨hne, hrest⟩ := not_or.mp (mt List.mem_cons.mpr h)
    rcases first with ⟨k, v⟩
    rw [insert]
    split
    · exact List.Perm.refl _
    · exact ((ih hrest).cons (k, v)).trans (List.Perm.swap ..)

/-- Arguments of different names are all kept. -/
theorem perm_ofList {pairs : List (String × String)} (h : (pairs.map (·.1)).Nodup) :
    (ofList pairs).Perm pairs := by
  suffices ∀ m : Arguments, ((m ++ pairs).map (·.1)).Nodup →
      (pairs.foldl (fun m p => insert p.1 p.2 m) m).Perm (m ++ pairs) from this [] h
  clear h
  induction pairs with
  | nil => intro m _; simp
  | cons pair pairs ih =>
    intro m h
    have hpair : pair.1 ∉ m.map (·.1) := fun hmem => by
      rw [List.map_append, List.nodup_append] at h
      exact h.2.2 _ hmem _ (List.mem_cons_self ..) rfl
    have hinsert := perm_insert pair.1 pair.2 m hpair
    have hmiddle : (insert pair.1 pair.2 m ++ pairs).Perm (m ++ pair :: pairs) :=
      (hinsert.append_right pairs).trans List.perm_middle.symm
    exact (ih _ ((hmiddle.map _).nodup_iff.mpr h)).trans hmiddle

theorem mem_of_mem_insert {name value : String} {m : Arguments} {a : String × String}
    (h : a ∈ insert name value m) : a = (name, value) ∨ a ∈ m := by
  induction m with
  | nil => exact Or.inl (List.mem_singleton.mp h)
  | cons first m ih =>
    rcases first with ⟨k, v⟩
    rw [insert] at h
    split at h
    · exact List.mem_cons.mp h
    · split at h
      · exact (List.mem_cons.mp h).imp_right (List.mem_cons_of_mem _)
      · rcases List.mem_cons.mp h with rfl | h
        · exact Or.inr (List.mem_cons_self ..)
        · exact (ih h).imp_right (List.mem_cons_of_mem _)

theorem mem_of_mem_ofList {pairs : List (String × String)} {a : String × String}
    (h : a ∈ ofList pairs) : a ∈ pairs := by
  suffices ∀ m : Arguments, a ∈ pairs.foldl (fun m p => insert p.1 p.2 m) m → a ∈ m ∨ a ∈ pairs from
    (this [] h).resolve_left (by simp)
  clear h
  induction pairs with
  | nil => exact fun m h => Or.inl h
  | cons pair pairs ih =>
    intro m h
    rcases ih _ h with h | h
    · rcases mem_of_mem_insert h with rfl | h
      · exact Or.inr (List.mem_cons_self ..)
      · exact Or.inl h
    · exact Or.inr (List.mem_cons_of_mem _ h)

/-- Arguments of different names, all of them from a list of names. -/
structure Within (names : List String) (m : Arguments) : Prop where
  nodup : (m.map (·.1)).Nodup
  subset : ∀ name ∈ m.map (·.1), name ∈ names

theorem within_ofList {names : List String} {pairs : List (String × String)}
    (h : Named names pairs) (hnames : names.Nodup) : Within names (ofList pairs) := by
  have hperm := (perm_ofList (h.nodup hnames)).map (·.1)
  exact ⟨hperm.nodup_iff.mpr (h.nodup hnames), fun name hname => h.subset (hperm.subset hname)⟩

end Arguments

end NodeBootstrap
