import NodeBootstrap.Failure

/-!
# Data

Settings and answers arrive as data: texts, numbers, lists and records. The formats differ in
their spelling only.

* `Data`: a value, whose records keep the order and the repetitions of their fields;
* `FieldReader`, `Data.readRecord`, `Data.readStrict`: how a record fills a structure field by
  field;
* `Data.asText`, `Data.asOptionalText`, …: the readers of single values.
-/

namespace NodeBootstrap

/-- A value. Numbers are kept as they are spelled. A text, or a name in a record, may hold half of
a character; the text or the record has then lost its content. -/
inductive Data where
  | null
  | flag (b : Bool)
  | number (spelling : String)
  | text (s : String)
  | broken
  | list (items : List Data)
  | record (fields : List (String × Data))
deriving Repr, Inhabited

namespace Data

/-- The result of giving a value its type. -/
abbrev Typed (α : Type) := Except ReadFault α

/-- A text. -/
def asText : Data → Typed String
  | text s => .ok s
  | _ => .error .mistyped

/-- A text, or none for the null value. -/
def asOptionalText : Data → Typed (Option String)
  | null => .ok none
  | text s => .ok (some s)
  | _ => .error .mistyped

/-- A truth value. -/
def asFlag : Data → Typed Bool
  | flag b => .ok b
  | _ => .error .mistyped

/-- A list whose items all read. -/
def asListOf (item : Data → Typed α) : Data → Typed (List α)
  | list items => items.mapM item
  | _ => .error .mistyped

/-- Fields whose values all read. -/
def fieldsOf (value : Data → Typed α) : List (String × Data) → Typed (List (String × α))
  | [] => .ok []
  | (k, d) :: rest => do
    let v ← value d
    let vs ← fieldsOf value rest
    return (k, v) :: vs

/-- A record whose values all read. -/
def asMapOf (value : Data → Typed α) : Data → Typed (List (String × α))
  | record fields => fieldsOf value fields
  | _ => .error .mistyped

/-- A value that may be null. -/
def asOptional (value : Data → Typed α) : Data → Typed (Option α)
  | null => .ok none
  | d => (value d).map some

end Data

/-- How a structure takes the value of one of its fields. -/
structure FieldReader (α : Type) where
  name : String
  read : Data → α → Data.Typed α

namespace FieldReader

/-- A field whose value is read by `value` and stored by `store`. -/
def of (name : String) (value : Data → Data.Typed β) (store : β → α → α) : FieldReader α :=
  ⟨name, fun d a => (value d).map fun b => store b a⟩

/-- Takes one field of a record; a field without a reader is left out. -/
def take (readers : List (FieldReader α)) (field : String × Data) (a : α) : Data.Typed α :=
  match readers.find? fun r => r.name == field.1 with
  | some r => r.read field.2 a
  | none => .ok a

/-- Takes the fields of a record in order. -/
def takeAll (readers : List (FieldReader α)) : List (String × Data) → α → Data.Typed α
  | [], a => .ok a
  | f :: fs, a => do
    let a ← take readers f a
    takeAll readers fs a

/-- Takes values for the fields in the order in which the structure has them. -/
def takeInOrder : List (FieldReader α) → List Data → α → Data.Typed (α × List Data)
  | r :: rs, d :: ds, a => do
    let a ← r.read d a
    takeInOrder rs ds a
  | _, ds, a => .ok (a, ds)

end FieldReader

namespace Data

/-- Fills a structure from a record, or from a list that gives the fields in order. Where
`extra` is not allowed, the list has no more items than there are fields. -/
def readRecord (readers : List (FieldReader α)) (extra : Bool) (start : α) : Data → Typed α
  | record fields => FieldReader.takeAll readers fields start
  | list items => do
    let (a, rest) ← FieldReader.takeInOrder readers items start
    if rest.isEmpty || extra then return a else throw .mistyped
  | _ => .error .mistyped

/-- Fills a structure from a record that has none of its fields twice, or from a list that gives
exactly the fields in order. -/
def readStrict (readers : List (FieldReader α)) (start : α) : Data → Typed α
  | record fields =>
    let known := (fields.map (·.1)).filter fun k => readers.any fun r => r.name == k
    if known.Nodup then FieldReader.takeAll readers fields start else .error .mistyped
  | list items =>
    if items.length = readers.length then (FieldReader.takeInOrder readers items start).map (·.1)
    else .error .mistyped
  | _ => .error .mistyped

end Data

end NodeBootstrap
