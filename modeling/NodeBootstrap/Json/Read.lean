import NodeBootstrap.Data.Basic
import NodeBootstrap.Text.Hex

/-!
# Reading JSON

The strict grammar: one value with blanks around it and nothing after it.

* `Json.string`: the characters of a string, with its escapes read;
* `Json.number`: the spelling of a number;
* `Json.value`: a value and the text after it; the fuel bounds the nesting and the lengths, and
  one more than the length of the text always suffices;
* `Json.parse`: the value that a whole text denotes.
-/

namespace NodeBootstrap.Json

/-- The blanks of the grammar. -/
def isSpace (c : Char) : Bool := c == ' ' || c == '\t' || c == '\n' || c == '\r'

/-- The text from its first character that is not a blank. -/
def skip (cs : List Char) : List Char := cs.dropWhile isSpace

/-- A piece of a string: a character, or half of a pair that denotes one. -/
inductive Piece where
  | char (c : Char)
  | half (unit : Nat)
deriving DecidableEq, Repr

/-- The piece that a number of four hexadecimal digits denotes. -/
def pieceOf (n : Nat) : Piece :=
  if 0xD800 ≤ n ∧ n < 0xE000 then .half n else .char (Char.ofNat n)

/-- The character of a one-letter escape. -/
def escapeChar? : Char → Option Char
  | '"' => some '"'
  | '\\' => some '\\'
  | '/' => some '/'
  | 'b' => some '\x08'
  | 'f' => some '\x0c'
  | 'n' => some '\n'
  | 'r' => some '\r'
  | 't' => some '\t'
  | _ => none

/-- The pieces of a string up to its closing quote, and the text after it. -/
def stringBody : List Char → Option (List Piece × List Char)
  | [] => none
  | '"' :: cs => some ([], cs)
  | '\\' :: 'u' :: a :: b :: c :: d :: cs =>
    match Hex.read? [a, b, c, d] with
    | none => none
    | some n => (stringBody cs).map fun (ps, r) => (pieceOf n :: ps, r)
  | '\\' :: e :: cs =>
    match escapeChar? e with
    | some c => (stringBody cs).map fun (ps, r) => (.char c :: ps, r)
    | none => none
  | c :: cs =>
    if c.toNat < 0x20 ∨ c = '\\' then none
    else (stringBody cs).map fun (ps, r) => (.char c :: ps, r)

/-- The character that two halves denote. -/
def pairChar? (high low : Nat) : Option Char :=
  if high < 0xDC00 ∧ 0xDC00 ≤ low then
    some (Char.ofNat (0x10000 + (high - 0xD800) * 0x400 + (low - 0xDC00)))
  else none

/-- The characters of pieces, if every half is part of a pair. -/
def chars? : List Piece → Option (List Char)
  | [] => some []
  | .char c :: ps => (chars? ps).map (c :: ·)
  | .half high :: .half low :: ps => do
    let c ← pairChar? high low
    let cs ← chars? ps
    return c :: cs
  | .half _ :: _ => none

/-- The digits at the start of a text. -/
def digitRun (cs : List Char) : List Char × List Char :=
  (cs.takeWhile Decimal.isDigit, cs.dropWhile Decimal.isDigit)

/-- The digits before the point: one zero, or digits that do not begin with one. -/
def wholePart (cs : List Char) : Option (List Char × List Char) :=
  match digitRun cs with
  | ([], _) => none
  | (['0'], rest) => some (['0'], rest)
  | ('0' :: _, _) => none
  | (ds, rest) => some (ds, rest)

/-- The point and the digits after it, where there are any. -/
def fractionPart : List Char → Option (List Char × List Char)
  | '.' :: cs =>
    match digitRun cs with
    | ([], _) => none
    | (ds, rest) => some ('.' :: ds, rest)
  | cs => some ([], cs)

/-- The sign of an exponent. -/
def exponentSign : List Char → List Char × List Char
  | '+' :: cs => (['+'], cs)
  | '-' :: cs => (['-'], cs)
  | cs => ([], cs)

/-- The exponent, where there is one. -/
def exponentPart : List Char → Option (List Char × List Char)
  | c :: cs =>
    if c = 'e' ∨ c = 'E' then
      let (sign, cs) := exponentSign cs
      match digitRun cs with
      | ([], _) => none
      | (ds, rest) => some (c :: sign ++ ds, rest)
    else some ([], c :: cs)
  | [] => some ([], [])

/-- The spelling of a number without a sign. -/
def magnitude (cs : List Char) : Option (List Char × List Char) := do
  let (whole, cs) ← wholePart cs
  let (fraction, cs) ← fractionPart cs
  let (exponent, cs) ← exponentPart cs
  return (whole ++ fraction ++ exponent, cs)

/-- The spelling of a number. -/
def number : List Char → Option (List Char × List Char)
  | '-' :: cs => (magnitude cs).map fun (ds, r) => ('-' :: ds, r)
  | cs => magnitude cs

/-- A text value. -/
def textOf (ps : List Piece) : Data :=
  match chars? ps with
  | some cs => .text (String.ofList cs)
  | none => .broken

/-- A record of fields by the pieces of their names. -/
def recordOf (fs : List (List Piece × Data)) : Data :=
  match fs.mapM fun (ps, x) => (chars? ps).map fun cs => (String.ofList cs, x) with
  | some fields => .record fields
  | none => .broken

mutual

/-- A value and the text after it. -/
def value : (fuel : Nat) → List Char → Option (Data × List Char)
  | 0, _ => none
  | fuel + 1, cs =>
    match skip cs with
    | '\x7b' :: cs =>
      match skip cs with
      | '\x7d' :: cs => some (.record [], cs)
      | cs => (fields fuel cs).map fun (fs, r) => (recordOf fs, r)
    | '[' :: cs =>
      match skip cs with
      | ']' :: cs => some (.list [], cs)
      | cs => (items fuel cs).map fun (xs, r) => (.list xs, r)
    | '"' :: cs => (stringBody cs).map fun (ps, r) => (textOf ps, r)
    | 't' :: 'r' :: 'u' :: 'e' :: cs => some (.flag true, cs)
    | 'f' :: 'a' :: 'l' :: 's' :: 'e' :: cs => some (.flag false, cs)
    | 'n' :: 'u' :: 'l' :: 'l' :: cs => some (.null, cs)
    | cs => (number cs).map fun (ds, r) => (.number (String.ofList ds), r)

/-- The items of a list up to its closing bracket. -/
def items : (fuel : Nat) → List Char → Option (List Data × List Char)
  | 0, _ => none
  | fuel + 1, cs => do
    let (x, cs) ← value fuel cs
    match skip cs with
    | ']' :: cs => return ([x], cs)
    | ',' :: cs => do
      let (xs, cs) ← items fuel cs
      return (x :: xs, cs)
    | _ => none

/-- The fields of a record up to its closing brace, by the pieces of their names. -/
def fields : (fuel : Nat) → List Char → Option (List (List Piece × Data) × List Char)
  | 0, _ => none
  | fuel + 1, cs =>
    match skip cs with
    | '"' :: cs => do
      let (ps, cs) ← stringBody cs
      match skip cs with
      | ':' :: cs => do
        let (x, cs) ← value fuel cs
        match skip cs with
        | '\x7d' :: cs => return ([(ps, x)], cs)
        | ',' :: cs => do
          let (fs, cs) ← fields fuel cs
          return ((ps, x) :: fs, cs)
        | _ => none
      | _ => none
    | _ => none

end

/-- The value that a whole text denotes. -/
def parse (s : String) : Data.Typed Data :=
  match value (s.toList.length + 1) s.toList with
  | some (d, rest) => if skip rest = [] then .ok d else .error .malformed
  | none => .error .malformed

end NodeBootstrap.Json
