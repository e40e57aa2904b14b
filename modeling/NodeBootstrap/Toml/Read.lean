import NodeBootstrap.Toml.Lexeme
import NodeBootstrap.Toml.Table

/-!
# Reading settings files

* `Toml.value`: a value and the text after it;
* `Toml.Statement`, `Toml.statements`: the lines of a file;
* `Toml.Draft`: the tables filled so far and the way to the one that is being filled;
* `Toml.parse`: the record that a whole file denotes.
-/

namespace NodeBootstrap.Toml

/-! ## Values -/

/-- The values of a list up to its closing bracket. A comma may follow the last one. -/
def listItems (item : List Char → Option (Data × List Char)) :
    (fuel : Nat) → List Char → Option (List Data × List Char)
  | 0, _ => none
  | fuel + 1, cs =>
    match skipLines false cs with
    | ']' :: cs => some ([], cs)
    | cs => do
      let (d, cs) ← item cs
      match skipLines false cs with
      | ',' :: cs => do
        let (ds, cs) ← listItems item fuel cs
        return (d :: ds, cs)
      | ']' :: cs => return ([d], cs)
      | _ => none

/-- The fields of a table on one line up to its closing brace, added to those before them. -/
def tableFields (item : List Char → Option (Data × List Char)) :
    (fuel : Nat) → Table → List Char → Option (Table × List Char)
  | 0, _, _ => none
  | fuel + 1, t, cs => do
    let ((way, k), cs) ← key cs
    let cs ← Chars.after? ['='] cs
    let (d, cs) ← item (skipGap cs)
    let t ← t.put way k d
    match skipGap cs with
    | ',' :: cs => tableFields item fuel t cs
    | '\x7d' :: cs => return (t, cs)
    | _ => none

/-- A value and the text after it, nested to at most `depth` levels. A date or time is a record
that no structure has a field of. -/
def value : (depth : Nat) → List Char → Option (Data × List Char)
  | depth, cs =>
    match cs with
    | '[' :: r =>
      match depth with
      | 0 => none
      | depth + 1 => (listItems (value depth) (r.length + 1) r).map fun (ds, r) => (.list ds, r)
    | '\x7b' :: r =>
      match depth with
      | 0 => none
      | depth + 1 =>
        match skipGap r with
        | '\x7d' :: r => some (.record [], r)
        | _ =>
          (tableFields (value depth) (r.length + 1) .fresh r).map fun (t, r) => (t.data, r)
    | 't' :: 'r' :: 'u' :: 'e' :: r => some (.flag true, r)
    | 'f' :: 'a' :: 'l' :: 's' :: 'e' :: r => some (.flag false, r)
    | c :: _ =>
      if c = '"' ∨ c = '\'' then (text cs).map fun (ds, r) => (.text (String.ofList ds), r)
      else
        match moment cs with
        | some r => some (.record [("", .null)], r)
        | none => (number cs).map fun (ds, r) => (.number (String.ofList ds), r)
    | [] => none

/-! ## Lines -/

/-- A line of a settings file: a field, or the heading of a table or of one of several. -/
inductive Statement where
  | field (way : List String) (key : String) (d : Data)
  | table (way : List String) (key : String)
  | tableItem (way : List String) (key : String)

/-- The first line of a text that does not begin with blanks or comments, and the text after it. -/
def statement : List Char → Option (Statement × List Char)
  | '[' :: '[' :: cs => do
    let ((way, k), cs) ← key cs
    let cs ← Chars.after? [']'] cs
    let cs ← Chars.after? [']'] cs
    let cs ← restOfLine cs
    return (.tableItem way k, cs)
  | '[' :: cs => do
    let ((way, k), cs) ← key cs
    let cs ← Chars.after? [']'] cs
    let cs ← restOfLine cs
    return (.table way k, cs)
  | cs => do
    let ((way, k), cs) ← key cs
    let cs ← Chars.after? ['='] cs
    let (d, cs) ← value (depthLimit - 1) (skipGap cs)
    let cs ← restOfLine cs
    return (.field way k d, cs)

/-- All lines of a text. -/
def statements : (fuel : Nat) → List Char → Option (List Statement)
  | 0, _ => none
  | fuel + 1, cs =>
    match skipLines false cs with
    | [] => some []
    | cs => do
      let (s, cs) ← statement cs
      let ss ← statements fuel cs
      return s :: ss

/-! ## Files -/

/-- The tables filled so far and the way to the one that is being filled. -/
structure Draft where
  root : Table := .fresh
  way : List String := []

/-- The draft after one more line. -/
def Draft.step (d : Draft) : Statement → Option Draft
  | .field way k v =>
    (d.root.change false (Table.put way k v) d.way).map fun t => { d with root := t }
  | .table way k => (d.root.openTable way k).map fun t => ⟨t, way ++ [k]⟩
  | .tableItem way k => (d.root.appendTable way k).map fun t => ⟨t, way ++ [k]⟩

/-- The text without a mark of the byte order at its start. -/
def skipOrderMark : List Char → List Char
  | '\uFEFF' :: cs => cs
  | cs => cs

/-- The record that a whole file denotes. -/
def parse (s : String) : Data.Typed Data :=
  let cs := skipOrderMark s.toList
  match (statements (cs.length + 1) cs).bind fun ss => ss.foldlM Draft.step {} with
  | some d => .ok d.root.data
  | none => .error .malformed

end NodeBootstrap.Toml
