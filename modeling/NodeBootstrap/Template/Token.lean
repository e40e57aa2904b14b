import NodeBootstrap.Failure
import NodeBootstrap.Text.Hex

/-!
# Words of a template

What stands between the marks of a template is a sequence of tokens with ASCII blanks between them.

* `Token`: a word, a quoted text, a number or a sign;
* `Token.read`: the first token of a text, and the text after it.
-/

namespace NodeBootstrap.Template

/-- The smallest part of an expression or a tag. -/
inductive Token where
  | word (s : String)
  | text (s : String)
  | whole (n : Nat)
  | real (x : Float)
  | sign (s : String)
deriving Repr, Inhabited

namespace Token

/-! ## Classes of characters -/

/-- A blank between tokens. -/
def isGap (c : Char) : Bool :=
  c == ' ' || c == '\t' || c == '\n' || c == '\x0c' || c == '\r'

/-- The first character of a word. -/
def isWordStart (c : Char) : Bool :=
  ('a' ≤ c && c ≤ 'z') || ('A' ≤ c && c ≤ 'Z') || c == '_'

/-- A further character of a word. -/
def isWordChar (c : Char) : Bool := isWordStart c || Decimal.isDigit c

/-! ## Quoted texts -/

/-- The character that an escape of one letter stands for. -/
def escape? : Char → Option Char
  | '"' => some '"'
  | '\'' => some '\''
  | '\\' => some '\\'
  | '/' => some '/'
  | 'b' => some '\x08'
  | 'f' => some '\x0c'
  | 'n' => some '\n'
  | 'r' => some '\r'
  | 't' => some '\t'
  | _ => none

/-- A unit of sixteen bits in four hexadecimal digits, and the text after it. -/
def unit? : List Char → Option (Nat × List Char)
  | a :: b :: c :: d :: cs =>
    (Hex.read? [a, b, c, d]).map fun n => (n, cs)
  | _ => none

/-- The character that one unit or a pair of units stands for, and the text after it. -/
def wide? (cs : List Char) : Option (Char × List Char) := do
  let (n, rest) ← unit? cs
  if 0xD800 ≤ n ∧ n < 0xDC00 then
    match rest with
    | '\\' :: 'u' :: rest => do
      let (m, rest) ← unit? rest
      if 0xDC00 ≤ m ∧ m < 0xE000 then
        some (Char.ofNat (0x10000 + (n - 0xD800) * 0x400 + (m - 0xDC00)), rest)
      else none
    | _ => none
  else if 0xDC00 ≤ n ∧ n < 0xE000 then none
  else some (Char.ofNat n, rest)

/-- The characters up to the closing quote, and the text after the quote. -/
def quoted (quote : Char) : (fuel : Nat) → List Char → Option (List Char × List Char)
  | 0, _ => none
  | _ + 1, [] => none
  | fuel + 1, '\\' :: 'u' :: cs => do
    let (c, rest) ← wide? cs
    let (s, rest) ← quoted quote fuel rest
    return (c :: s, rest)
  | fuel + 1, '\\' :: e :: cs => do
    let c ← escape? e
    let (s, rest) ← quoted quote fuel cs
    return (c :: s, rest)
  | fuel + 1, c :: cs =>
    if c = quote then some ([], cs)
    else do
      let (s, rest) ← quoted quote fuel cs
      return (c :: s, rest)

/-! ## Numbers -/

/-- The bound of whole numbers. -/
def wholeLimit : Nat := Nat.pow 2 128

/-- Digits without the underscores between them; the last one must not be an underscore. -/
def plainDigits (cs : List Char) : Option (List Char) :=
  if cs.getLast? = some '_' then none else some (cs.filter (· ≠ '_'))

/-- A whole number by its digits in some base. -/
def wholeOf (base : Nat) (cs : List Char) : Option Token := do
  let ds ← plainDigits cs
  let values ← ds.mapM fun c => (Hex.value? c).filter (· < base)
  let n := values.foldl (fun n d => n * base + d) 0
  if ds ≠ [] ∧ n < wholeLimit then some (.whole n) else none

/-- The number `digits * 10 ^ exponent`; beyond the range of numbers it is infinite or nothing. -/
def scientific (digits : List Char) (exponent : Int) : Float :=
  let size : Int := exponent + digits.length
  if Decimal.value digits = 0 ∨ size < -400 then 0.0
  else if 400 < size then 1.0 / 0.0
  else Float.ofScientific (Decimal.value digits) (exponent < 0) exponent.natAbs

/-- The sign and the digits of an exponent, and the text after it. -/
def exponent? : List Char → Option (Int × List Char)
  | '-' :: cs => digits? cs |>.map fun (n, r) => (-n, r)
  | '+' :: cs => digits? cs
  | cs => digits? cs
where
  /-- At least one digit. -/
  digits? (cs : List Char) : Option (Int × List Char) :=
    match plainDigits (cs.takeWhile fun c => Decimal.isDigit c || c == '_') with
    | some (d :: ds) =>
      some (Decimal.value (d :: ds), cs.dropWhile fun c => Decimal.isDigit c || c == '_')
    | _ => none

/-- A number in decimal, and the text after it. -/
def decimal (cs : List Char) : Option (Token × List Char) := do
  let isPart := fun c => Decimal.isDigit c || c == '_'
  let whole := cs.takeWhile isPart
  match cs.dropWhile isPart with
  | '.' :: rest => do
    let fraction ← plainDigits ('0' :: rest.takeWhile isPart)
    let whole ← plainDigits (whole ++ ['0'])
    let digits := whole.dropLast ++ fraction.tail
    let places : Int := fraction.tail.length
    match rest.dropWhile isPart with
    | 'e' :: rest => do
      let (e, rest) ← exponent? rest
      return (.real (scientific digits (e - places)), rest)
    | 'E' :: rest => do
      let (e, rest) ← exponent? rest
      return (.real (scientific digits (e - places)), rest)
    | rest => return (.real (scientific digits (-places)), rest)
  | 'e' :: rest => do
    let digits ← plainDigits (whole ++ ['0'])
    let (e, rest) ← exponent? rest
    return (.real (scientific digits.dropLast e), rest)
  | 'E' :: rest => do
    let digits ← plainDigits (whole ++ ['0'])
    let (e, rest) ← exponent? rest
    return (.real (scientific digits.dropLast e), rest)
  | rest => return (← wholeOf 10 whole, rest)

/-- A whole number in another base, and the text after it. -/
def based (base : Nat) (cs : List Char) : Option (Token × List Char) := do
  let isPart := fun c =>
    (if base = 16 then (Hex.value? c).isSome else Decimal.isDigit c) || c == '_'
  return (← wholeOf base (cs.takeWhile isPart), cs.dropWhile isPart)

/-- A number, and the text after it. -/
def number : List Char → Option (Token × List Char)
  | '0' :: 'b' :: cs => based 2 cs
  | '0' :: 'B' :: cs => based 2 cs
  | '0' :: 'o' :: cs => based 8 cs
  | '0' :: 'O' :: cs => based 8 cs
  | '0' :: 'x' :: cs => based 16 cs
  | '0' :: 'X' :: cs => based 16 cs
  | cs => decimal cs

/-! ## Tokens -/

/-- The signs of two characters, then those of one; the first that fits counts. -/
def signs : List String :=
  ["//", "**", "==", "!=", ">=", "<=", ">", "<", "(", ")", "[", "]", "\x7b", "\x7d", "+", "-", "*",
   "/", "%", ".", ",", ":", "~", "|", "="]

/-- The first of some signs that a text begins with, and the text after it. -/
def signOf (cs : List Char) : List String → Option (Token × List Char)
  | [] => none
  | s :: ss =>
    match Chars.after? s.toList cs with
    | some rest => some (.sign s, rest)
    | none => signOf cs ss

/-- The first token of a text that does not begin with a blank, and the text after it. -/
def read : List Char → Option (Token × List Char)
  | [] => none
  | c :: cs =>
    if isWordStart c then
      some (.word (String.ofList (c :: cs.takeWhile isWordChar)), cs.dropWhile isWordChar)
    else if Decimal.isDigit c then number (c :: cs)
    else if c = '"' ∨ c = '\'' then
      (quoted c (cs.length + 1) cs).map fun (s, rest) => (.text (String.ofList s), rest)
    else signOf (c :: cs) signs

end Token

end NodeBootstrap.Template
