import NodeBootstrap.Data.Basic

/-!
# Tables of a settings file

A settings file is filled field by field into tables. A table is made by its own heading, by the
heading of a table inside it, or by a name with dots; how it was made decides what may still be
added to it.

* `Toml.Table`, `Toml.Node`: tables under construction;
* `Toml.Table.put`: a field at the end of a way of names;
* `Toml.Table.openTable`, `Toml.Table.appendTable`: the headings of a table and of one of several;
* `Toml.Table.data`: the finished table.
-/

namespace NodeBootstrap.Toml

/-- How a table was made: by its own heading, on the way to another, or by a name with dots. -/
inductive Origin where
  | heading
  | passing
  | dotted
deriving DecidableEq, Repr

mutual

/-- A table under construction. -/
inductive Table where
  | mk (origin : Origin) (fields : List (String × Node))

/-- What a field of a table holds: a finished value, a table, or tables of which the latest one
may still grow. -/
inductive Node where
  | value (d : Data)
  | table (t : Table)
  | tables (latest : Table) (earlier : List Table)

end

namespace Table

/-- How the table was made. -/
def origin : Table → Origin
  | mk o _ => o

/-- The fields of the table. -/
def fields : Table → List (String × Node)
  | mk _ fs => fs

/-- The table of a heading that nothing has been added to. -/
def fresh : Table := mk .heading []

/-- What a field holds. -/
def find? (t : Table) (k : String) : Option Node := (t.fields.find? fun f => f.1 == k).map (·.2)

/-- Fields with another content for a name. -/
def setField (k : String) (n : Node) : List (String × Node) → List (String × Node)
  | [] => [(k, n)]
  | f :: fs => if f.1 = k then (k, n) :: fs else f :: setField k n fs

/-- The table with another content for a field. -/
def set (t : Table) (k : String) (n : Node) : Table := mk t.origin (setField k n t.fields)

/-- The table with one more field, unless it has the field already. -/
def add? (t : Table) (k : String) (n : Node) : Option Table :=
  match t.find? k with
  | none => some (t.set k n)
  | some _ => none

/-- The table with the one at the end of a way changed. Tables that are missing on the way are
made; a way of names with dots leads through no table that has a heading of its own. -/
def change (dotted : Bool) (f : Table → Option Table) : (way : List String) → Table → Option Table
  | [], t => f t
  | k :: ks, t =>
    match t.find? k with
    | none =>
      (change dotted f ks (mk (if dotted then .dotted else .passing) [])).map fun s =>
        t.set k (.table s)
    | some (.value _) => none
    | some (.table s) =>
      if dotted ∧ s.origin = .heading then none
      else (change dotted f ks s).map fun s => t.set k (.table s)
    | some (.tables s earlier) =>
      (change dotted f ks s).map fun s => t.set k (.tables s earlier)

/-- The table with a value at the end of a way of names with dots. A table that has a heading is
not added to in this way. -/
def put (way : List String) (k : String) (d : Data) (t : Table) : Option Table :=
  t.change true (fun s => if (s.origin = .dotted) = (way = []) then none else s.add? k (.value d))
    way

/-- The table after the heading of a table inside it. -/
def openTable (way : List String) (k : String) (t : Table) : Option Table :=
  t.change false (fun s =>
    match s.find? k with
    | none => some (s.set k (.table fresh))
    | some (.table (mk .passing fs)) => some (s.set k (.table (mk .heading fs)))
    | some _ => none) way

/-- The table after the heading of one of several tables inside it. -/
def appendTable (way : List String) (k : String) (t : Table) : Option Table :=
  t.change false (fun s =>
    match s.find? k with
    | none => some (s.set k (.tables fresh []))
    | some (.tables latest earlier) => some (s.set k (.tables fresh (latest :: earlier)))
    | some _ => none) way

mutual

/-- The finished table. -/
def data : Table → Data
  | mk _ fs => .record (fieldsData fs)

/-- The finished fields. -/
def fieldsData : List (String × Node) → List (String × Data)
  | [] => []
  | (k, n) :: fs => (k, nodeData n) :: fieldsData fs

/-- The finished content of a field. -/
def nodeData : Node → Data
  | .value d => d
  | .table t => data t
  | .tables latest earlier => .list ((tablesData earlier).reverse ++ [data latest])

/-- Finished tables. -/
def tablesData : List Table → List Data
  | [] => []
  | t :: ts => data t :: tablesData ts

end

end Table

end NodeBootstrap.Toml
