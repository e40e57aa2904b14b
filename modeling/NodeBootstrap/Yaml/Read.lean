import NodeBootstrap.Yaml.ReadFlow

/-!
# Reading documents

Records and lists are told apart, and from what surrounds them, by the columns in which their
fields and items begin.

* `Yaml.readValue`, `Yaml.readNode`: the value of a field, and a part that begins at a place;
* `Yaml.readFields`, `Yaml.readItems`: the fields and items that begin in one column;
* `Yaml.readDocument`: the one document of a text;
* `Yaml.parse`: the document with its names looked up.
-/

namespace NodeBootstrap.Yaml

open YamlNode ReadFlow

/-! ## Parts on one line -/

/-- Scalars that bracket or quote themselves, references, and lists and records in brackets. -/
def readFlat (p : Properties) (cs : List Char) : Option (YamlNode × List Char) :=
  match cs with
  | '*' :: r => if p.none? then (ReadFlow.name r).map fun (a, r) => (.reference a, r) else none
  | c :: _ =>
    if c = '"' ∨ c = '\'' then
      (ReadScalar.quoted cs).map fun (ds, r) => (.scalar p.anchor (String.ofList ds), r)
    else if c = '[' ∨ c = '\x7b' then
      (ReadFlow.node (4 * cs.length + 4) cs).bind fun (n, r) =>
        (n.withAnchor p.anchor).map fun n => (n, r)
    else none
  | [] => none

/-- The key of a field with the colon after it, on one line, and the text after the colon. -/
def readKey (cs : List Char) : Option (YamlNode × List Char) := do
  let (p, r) ← properties cs
  let (k, r) ← match readFlat p r with
    | some x => some x
    | none =>
      (ReadScalar.plain .block none r).map fun (ds, r) => (.scalar p.anchor (String.ofList ds), r)
  match r.dropWhile isGap with
  | ':' :: r => if startsBlank r && sameLine cs (':' :: r) then return (k, r) else none
  | _ => none

/-- A scalar, a reference, or a list or record in brackets, which fills the rest of its line. Lines
that it goes on in begin at column `least` or after it. -/
def readLeaf (least : Nat) (p : Properties) (cs : List Char) : Option (YamlNode × Spot) :=
  match ReadScalar.block least cs with
  | some (ds, s) => some (.scalar p.anchor (String.ofList ds), s)
  | none =>
    match readFlat p cs with
    | some (n, r) => (restOfLine r).map fun s => (n, s)
    | none => do
      let (ds, r) ← ReadScalar.plain .block (some least) cs
      let s ← restOfLine r
      return (.scalar p.anchor (String.ofList ds), s)

/-- A field at a place: a colon or a question mark alone, or a key with a colon after it. -/
def startsField (s : Spot) : Bool :=
  (s.sign? '?').isSome || (s.sign? ':').isSome || (readKey s.rest).isSome

/-! ## Parts over several lines -/

mutual

/-- A part that begins at a place. A part that would begin before column `least` is empty, except
that the items of a list in column `items` count. -/
def readNode : (fuel : Nat) → (least : Nat) → (items : Option Nat) → Spot → Option (YamlNode × Spot)
  | 0, _, _, _ => none
  | fuel + 1, least, items, s =>
    if s.isEnd then some (nothing, s)
    else if s.column < least then
      if items = some s.column ∧ (s.sign? '-').isSome then
        (readItems fuel s.column s).map fun (xs, s) => (.list none xs, s)
      else some (nothing, s)
    else if (s.sign? '-').isSome then
      (readItems fuel s.column s).map fun (xs, s) => (.list none xs, s)
    else if startsField s then
      (readFields fuel s.column s).map fun (fs, s) => (.record none fs, s)
    else do
      let (p, r) ← properties s.rest
      readProper fuel least items p r
termination_by structural fuel => fuel

/-- The part after a name or a type, or in their place: on the same line, or on the lines after. -/
def readProper : (fuel : Nat) → (least : Nat) → (items : Option Nat) → Properties → List Char →
    Option (YamlNode × Spot)
  | 0, _, _, _, _ => none
  | fuel + 1, least, items, p, cs =>
    match restOfLine cs with
    | some s => do
      let (n, s) ← readNode fuel least items s
      let n ← n.withAnchor p.anchor
      return (n, s)
    | none => readLeaf least p cs
termination_by structural fuel => fuel

/-- The value of a field, after the colon. It does not begin a list or a record in the same line. -/
def readValue : (fuel : Nat) → (column : Nat) → List Char → Option (YamlNode × Spot)
  | 0, _, _ => none
  | fuel + 1, column, cs =>
    match restOfLine cs with
    | some s => readNode fuel (column + 1) (some column) s
    | none => do
      let (p, r) ← properties (cs.dropWhile isGap)
      if p.none? then readLeaf (column + 1) p r
      else readProper fuel (column + 1) (some column) p r
termination_by structural fuel => fuel

/-- The fields that begin in a column, from the place of one on. -/
def readFields : (fuel : Nat) → (column : Nat) → Spot → Option (List (YamlNode × YamlNode) × Spot)
  | 0, _, _ => none
  | fuel + 1, column, s => do
    let (f, s) ← readField fuel column s
    if !s.isEnd && s.column == column then
      let (fs, s) ← readFields fuel column s
      return (f :: fs, s)
    else return ([f], s)
termination_by structural fuel => fuel

/-- A field at a place. -/
def readField : (fuel : Nat) → (column : Nat) → Spot → Option ((YamlNode × YamlNode) × Spot)
  | 0, _, _ => none
  | fuel + 1, column, s =>
    match s.sign? '?' with
    | some r => do
      let (k, s) ← readNode fuel (column + 1) (some column) (Spot.next (column + 1) r)
      if s.isEnd || s.column != column then return ((k, nothing), s)
      else
        match s.sign? ':' with
        | some r => do
          let (n, s) ← readNode fuel (column + 1) (some column) (Spot.next (column + 1) r)
          return ((k, n), s)
        | none => return ((k, nothing), s)
    | none =>
      match s.sign? ':' with
      | some r => do
        let (n, s) ← readNode fuel (column + 1) (some column) (Spot.next (column + 1) r)
        return ((nothing, n), s)
      | none => do
        let (k, r) ← readKey s.rest
        let (n, s) ← readValue fuel column r
        return ((k, n), s)
termination_by structural fuel => fuel

/-- The items of a list that begin in a column, from the place of one on. -/
def readItems : (fuel : Nat) → (column : Nat) → Spot → Option (List YamlNode × Spot)
  | 0, _, _ => none
  | fuel + 1, column, s => do
    let r ← s.sign? '-'
    let (x, s) ← readNode fuel (column + 1) none (Spot.next (column + 1) r)
    if !s.isEnd && s.column == column && (s.sign? '-').isSome then
      let (xs, s) ← readItems fuel column s
      return (x :: xs, s)
    else return ([x], s)
termination_by structural fuel => fuel

end

/-! ## Documents -/

/-- A character that may stand in a text of documents at all. -/
def isReadable (c : Char) : Bool :=
  c == '\t' || c == '\n' || c == '\r' || (' ' ≤ c && c ≤ '~') || c == '\u0085' ||
  ('\u00A0' ≤ c && c.toNat ≤ 0xFFFD) || 0x10000 ≤ c.toNat

/-- The text without a mark of the byte order at its start. -/
def skipOrderMark : List Char → List Char
  | '\uFEFF' :: cs => cs
  | cs => cs

/-- The place after the lines of a text that begin with a percent sign. -/
def skipDirectives : (fuel : Nat) → Spot → Option Spot
  | 0, _ => none
  | fuel + 1, s =>
    match s.rest with
    | '%' :: r =>
      if s.column = 0 then do
        let s ← skipDirectives fuel (Spot.next 0 (r.dropWhile fun c => !isBreak c))
        if Spot.startsMark '-' s.rest then return s else none
      else none
    | _ => some s

/-- The one part that a document consists of. -/
def readRoot (fuel : Nat) (s : Spot) : Option (YamlNode × Spot) :=
  if s.column = 0 ∧ Spot.startsMark '-' s.rest then
    match restOfLine (s.rest.drop 3) with
    | some s => readNode fuel 0 none s
    | none => do
      let (p, r) ← properties ((s.rest.drop 3).dropWhile isGap)
      if p.none? then readLeaf 0 p r else readProper fuel 0 none p r
  else readNode fuel 0 none s

/-- Whether nothing follows a document but the line that ends it. -/
def isFinal (s : Spot) : Bool :=
  s.rest.isEmpty ||
    (s.column == 0 && Spot.startsMark '.' s.rest && (Spot.next 3 (s.rest.drop 3)).rest.isEmpty)

/-- The one document of a text. -/
def readDocument (cs : List Char) : Option YamlNode := do
  if !cs.all isReadable then none
  let cs := skipOrderMark cs
  let s ← skipDirectives (cs.length + 1) (Spot.next 0 cs)
  if s.rest.isEmpty then none
  let (n, s) ← readRoot (4 * cs.length + 8) s
  if isFinal s then return n else none

/-- The one document of a text with its names looked up. -/
def parse (s : String) : Option YamlValue :=
  ((readDocument s.toList).bind (YamlNode.resolve [])).map (·.1)

end NodeBootstrap.Yaml
