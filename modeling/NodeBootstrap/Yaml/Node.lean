/-!
# Documents as they are written

In a written document every scalar is a text, and a part may be given a name and be referred to by
it further on.

* `YamlNode`: the parts of a written document;
* `YamlValue`: the parts with the names looked up;
* `YamlNode.resolve`: looks the names up, in the order of the text; a name without a meaning is an
  error.
-/

namespace NodeBootstrap

/-- A part of a written document. -/
inductive YamlNode where
  | scalar (anchor : Option String) (text : String)
  | list (anchor : Option String) (items : List YamlNode)
  | record (anchor : Option String) (fields : List (YamlNode × YamlNode))
  | reference (name : String)
deriving Repr, Inhabited

/-- A part of a document whose names are looked up. A list or record that is referred to does not
stand there again. -/
inductive YamlValue where
  | text (s : String)
  | list (items : List YamlValue)
  | record (fields : List (YamlValue × YamlValue))
  | shared
deriving Repr, Inhabited

namespace YamlNode

/-- What the names stand for: a text, or a list or record. -/
abbrev Anchors := List (String × YamlValue)

/-- The names with one more, if one is given. -/
def bind (anchor : Option String) (v : YamlValue) (names : Anchors) : Anchors :=
  match anchor with
  | some a => (a, v) :: names
  | none => names

mutual

/-- A part with its names looked up, and the names known after it. -/
def resolve (names : Anchors) : YamlNode → Option (YamlValue × Anchors)
  | scalar a s => some (.text s, bind a (.text s) names)
  | list a items =>
    (resolveItems (bind a .shared names) items).map fun (vs, ns) => (.list vs, ns)
  | record a fields =>
    (resolveFields (bind a .shared names) fields).map fun (fs, ns) => (.record fs, ns)
  | reference name => (names.find? fun n => n.1 == name).map fun n => (n.2, names)
termination_by structural n => n

/-- Items with their names looked up. -/
def resolveItems (names : Anchors) : List YamlNode → Option (List YamlValue × Anchors)
  | [] => some ([], names)
  | n :: ns => do
    let (v, names) ← resolve names n
    let (vs, names) ← resolveItems names ns
    return (v :: vs, names)
termination_by structural ns => ns

/-- Fields with their names looked up. -/
def resolveFields (names : Anchors) :
    List (YamlNode × YamlNode) → Option (List (YamlValue × YamlValue) × Anchors)
  | [] => some ([], names)
  | f :: fs => do
    let (v, names) ← resolveField names f
    let (vs, names) ← resolveFields names fs
    return (v :: vs, names)
termination_by structural fs => fs

/-- A field with its names looked up. -/
def resolveField (names : Anchors) :
    YamlNode × YamlNode → Option ((YamlValue × YamlValue) × Anchors)
  | (k, n) => do
    let (key, names) ← resolve names k
    let (value, names) ← resolve names n
    return ((key, value), names)
termination_by structural f => f

end

/-- Gives a part a name; a part that has one or refers to one takes no other. -/
def withAnchor (anchor : Option String) (n : YamlNode) : Option YamlNode :=
  match anchor, n with
  | none, n => some n
  | some a, scalar none s => some (scalar (some a) s)
  | some a, list none items => some (list (some a) items)
  | some a, record none fields => some (record (some a) fields)
  | some _, _ => none

/-- The part where nothing is written. -/
def nothing : YamlNode := scalar none ""

end YamlNode

end NodeBootstrap
