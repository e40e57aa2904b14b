/-!
# Documents as trees

A document is a tree of texts, numbers, flags, lists and records. A record keeps the order of its
fields.

* `Yaml`: the trees;
* `Yaml.optional`, `Yaml.unlessEmpty`: fields that a record has only when there is a value.
-/

namespace NodeBootstrap

/-- A document tree. -/
inductive Yaml where
  | text (s : String)
  | number (n : Nat)
  | flag (b : Bool)
  | list (items : List Yaml)
  | record (fields : List (String × Yaml))
deriving Repr, Inhabited

namespace Yaml

/-- A list of texts. -/
def texts (xs : List String) : Yaml := list (xs.map text)

/-- A record of texts. -/
def table (xs : List (String × String)) : Yaml := record (xs.map fun (k, v) => (k, text v))

/-- A field that is there only when there is a value. -/
def optional (key : String) (value : Option Yaml) : List (String × Yaml) :=
  match value with
  | some y => [(key, y)]
  | none => []

/-- A text field that is there only when there is a text. -/
def optionalText (key : String) (value : Option String) : List (String × Yaml) :=
  optional key (value.map text)

/-- A field that is there only when the values behind it are some. -/
def unlessEmpty (key : String) (values : List α) (tree : List α → Yaml) : List (String × Yaml) :=
  match values with
  | [] => []
  | _ :: _ => [(key, tree values)]

end Yaml

end NodeBootstrap
