import NodeBootstrap.Yaml.Node
import NodeBootstrap.Yaml.ReadScalar

/-!
# Reading lists and records in brackets

* `ReadFlow.properties`: the name and the type that may stand before a part;
* `ReadFlow.skip`: blanks, ends of lines and comments inside brackets;
* `ReadFlow.node`: a part inside brackets, and the text after it.
-/

namespace NodeBootstrap.ReadFlow

open YamlNode

/-! ## Names and types -/

/-- A character of a name. -/
def isNameChar (c : Char) : Bool :=
  ('a' ≤ c && c ≤ 'z') || ('A' ≤ c && c ≤ 'Z') || Decimal.isDigit c || c == '_' || c == '-'

/-- Whether a name may end before a text. -/
def endsName (cs : List Char) : Bool :=
  startsBlank cs || cs.head?.any fun c => ['?', ':', ',', ']', '\x7d', '%', '@', '\x60'].contains c

/-- A name and the text after it. -/
def name (cs : List Char) : Option (String × List Char) :=
  let r := cs.dropWhile isNameChar
  match cs.takeWhile isNameChar with
  | [] => none
  | ds => if endsName r then some (String.ofList ds, r) else none

/-- A character of a type. -/
def isTypeChar (c : Char) : Bool :=
  isNameChar c || [';', '/', '?', ':', '@', '&', '=', '+', '$', '.', '!', '~', '*', '\'', '(', ')',
    '%', '#'].contains c

/-- The text after a type, which does not matter to the reader. -/
def skipType (cs : List Char) : Option (List Char) :=
  match cs with
  | '<' :: r =>
    match r.dropWhile fun c => isTypeChar c || isFlowSign c with
    | '>' :: r => if startsBlank r then some r else none
    | _ => none
  | _ =>
    let word := cs.takeWhile isTypeChar
    let r := cs.dropWhile isTypeChar
    let handles := word.filter (· == '!')
    if (startsBlank r || r.head? == some ',') && (handles.isEmpty || (handles.length == 1 &&
      word.head? == some '!' && 1 < word.length)) then some r else none
where
  /-- The signs that a long type may hold besides. -/
  isFlowSign (c : Char) : Bool := c == ',' || c == '[' || c == ']'

/-- What may stand before a part: its name, and whether there is a type. -/
structure Properties where
  anchor : Option String := none
  typed : Bool := false
deriving DecidableEq, Repr

/-- Nothing before a part. -/
def Properties.none? (p : Properties) : Bool := p.anchor.isNone && !p.typed

/-- One name or type before a part, and the text after it. -/
def property (p : Properties) : List Char → Option (Properties × List Char)
  | '&' :: cs =>
    if p.anchor.isSome then none
    else (name cs).map fun (a, r) => ({ p with anchor := some a }, r)
  | '!' :: cs =>
    if p.typed then none else (skipType cs).map fun r => ({ p with typed := true }, r)
  | cs => some (p, cs)

/-- The name and the type before a part, in either order, on one line. -/
def properties (cs : List Char) : Option (Properties × List Char) := do
  let (p, cs) ← property {} cs
  let (p, cs) ← property p (if p.none? then cs else cs.dropWhile isGap)
  return (p, if p.none? then cs else cs.dropWhile isGap)

/-! ## Inside brackets -/

/-- The text after blanks, ends of lines and comments. A line that starts or ends a document ends
the text. -/
def skipFrom (column : Nat) (comment : Bool) : List Char → List Char
  | [] => []
  | c :: cs =>
    if isBreak c then skipFrom 0 false cs
    else if comment then skipFrom (column + 1) true cs
    else if isGap c then skipFrom (column + 1) false cs
    else if c = '#' then skipFrom (column + 1) true cs
    else if column = 0 ∧ Spot.startsAnyMark (c :: cs) then []
    else c :: cs

/-- The text after blanks, ends of lines and comments inside a line. -/
def skip (cs : List Char) : List Char := skipFrom 1 false cs

/-- Whether `rest` follows in `text` on the same line and at most 1024 characters further on. -/
def sameLine (text rest : List Char) : Bool :=
  let length := text.length - rest.length
  length ≤ 1024 && !(text.take length).any isBreak

/-- The empty part, where a sign follows that ends a part. -/
def isItemEnd (cs : List Char) : Bool :=
  cs.head?.any fun c => c == ',' || c == ']' || c == '\x7d' || c == ':'

mutual

/-- A part inside brackets. -/
def node : (fuel : Nat) → List Char → Option (YamlNode × List Char)
  | 0, _ => none
  | fuel + 1, cs => do
    let (p, r) ← properties cs
    let r := if p.none? then r else skip r
    match r with
    | '*' :: r =>
      if p.none? then (name r).map fun (a, r) => (.reference a, r) else none
    | '[' :: r => do
      let (xs, r) ← items fuel r
      return (.list p.anchor xs, r)
    | '\x7b' :: r => do
      let (fs, r) ← fields fuel r
      return (.record p.anchor fs, r)
    | c :: _ =>
      if c = '"' ∨ c = '\'' then do
        let (ds, r) ← ReadScalar.quoted r
        return (.scalar p.anchor (String.ofList ds), r)
      else if !p.none? && isItemEnd r then return (.scalar p.anchor "", r)
      else do
        let (ds, r) ← ReadScalar.plain .flow (some 0) r
        return (.scalar p.anchor (String.ofList ds), r)
    | [] => none

/-- A part that may be left out. -/
def optionalNode : (fuel : Nat) → List Char → Option (YamlNode × List Char)
  | 0, _ => none
  | fuel + 1, cs =>
    let cs := skip cs
    if isItemEnd cs then some (nothing, cs) else node fuel cs

/-- The value after a key that begins at `start`, where a colon follows on its line. -/
def valueAfter : (fuel : Nat) → (start : List Char) → List Char →
    Option (Option YamlNode × List Char)
  | 0, _, _ => none
  | fuel + 1, start, cs =>
    match skip cs with
    | ':' :: r =>
      if sameLine start (':' :: r) then
        (optionalNode fuel r).map fun (n, r) => (some n, r)
      else none
    | r => some (none, r)

/-- A key with a question mark before it, and its value. -/
def askedField : (fuel : Nat) → List Char → Option ((YamlNode × YamlNode) × List Char)
  | 0, _ => none
  | fuel + 1, cs => do
    let (k, r) ← optionalNode fuel cs
    match skip r with
    | ':' :: r => do
      let (n, r) ← optionalNode fuel r
      return ((k, n), r)
    | r => return ((k, nothing), r)

/-- The items of a list up to its closing bracket. -/
def items : (fuel : Nat) → List Char → Option (List YamlNode × List Char)
  | 0, _ => none
  | fuel + 1, cs =>
    match skip cs with
    | ']' :: r => some ([], r)
    | cs => do
      let (x, r) ← item fuel cs
      match skip r with
      | ',' :: r => do
        let (xs, r) ← items fuel r
        return (x :: xs, r)
      | ']' :: r => return ([x], r)
      | _ => none

/-- An item of a list: a part, or a record of a single field without brackets. -/
def item : (fuel : Nat) → List Char → Option (YamlNode × List Char)
  | 0, _ => none
  | fuel + 1, cs =>
    match cs with
    | '?' :: r => do
      let (f, r) ← askedField fuel r
      return (.record none [f], r)
    | ':' :: r => do
      let (n, r) ← optionalNode fuel r
      return (.record none [(nothing, n)], r)
    | _ => do
      let (k, r) ← node fuel cs
      match ← valueAfter fuel cs r with
      | (some n, r) => return (.record none [(k, n)], r)
      | (none, r) => return (k, r)

/-- The fields of a record up to its closing brace. -/
def fields : (fuel : Nat) → List Char → Option (List (YamlNode × YamlNode) × List Char)
  | 0, _ => none
  | fuel + 1, cs =>
    match skip cs with
    | '\x7d' :: r => some ([], r)
    | cs => do
      let (f, r) ← field fuel cs
      match skip r with
      | ',' :: r => do
        let (fs, r) ← fields fuel r
        return (f :: fs, r)
      | '\x7d' :: r => return ([f], r)
      | _ => none

/-- A field of a record; its value may be left out. -/
def field : (fuel : Nat) → List Char → Option ((YamlNode × YamlNode) × List Char)
  | 0, _ => none
  | fuel + 1, cs =>
    match cs with
    | '?' :: r => askedField fuel r
    | _ => do
      let (k, r) ← node fuel cs
      let (n, r) ← valueAfter fuel cs r
      return ((k, n.getD nothing), r)

end

end NodeBootstrap.ReadFlow
