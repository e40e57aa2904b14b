import NodeBootstrap.Text.Break
import NodeBootstrap.Text.Cut
import NodeBootstrap.Text.Fraction
import NodeBootstrap.Text.Hex

/-!
# Texts inside documents

A text is written bare where a reader takes it for the same text, and otherwise between quotes or
as a block of lines.

* `Scalar.resolves`: a bare text that a reader would take for something other than a text;
* `Scalar.Style`, `Scalar.style`: how a text is written;
* `Scalar.write`: the written form at a given indentation.
-/

namespace NodeBootstrap.Scalar

/-- A character that may stand in a document as it is. -/
def isPrintable (c : Char) : Bool :=
  c == '\n' || (' ' ≤ c && c ≤ '~') || ('\u00A0' ≤ c && c.toNat ≤ 0xFFFD && c != '\uFEFF') ||
  0x10000 ≤ c.toNat

/-! ## Texts that look like something else -/

/-- Digits of a base up to sixteen and nothing else, at least one, with a value below `bound`. -/
def isNumeral (base bound : Nat) (cs : List Char) : Bool :=
  let digit := fun c => (Hex.value? c).getD base
  !cs.isEmpty && cs.all (fun c => digit c < base) &&
    cs.foldl (fun n c => n * base + digit c) 0 < bound

/-- A whole number with a base mark. -/
def isBasedNumeral (bound : Nat) : List Char → Bool
  | '0' :: 'x' :: cs => isNumeral 16 bound cs
  | '0' :: 'o' :: cs => isNumeral 8 bound cs
  | '0' :: 'b' :: cs => isNumeral 2 bound cs
  | _ => false

/-- A whole number with a base mark and an optional sign, of at most 128 binary digits. -/
def isBased : List Char → Bool
  | '+' :: cs => isBasedNumeral (Nat.pow 2 128) cs
  | '-' :: cs => isBasedNumeral (Nat.pow 2 127 + 1) cs
  | cs => isBasedNumeral (Nat.pow 2 128) cs

/-- The words that stand for something other than themselves. -/
def words : List String :=
  ["null", "Null", "NULL", "~", "true", "True", "TRUE", "false", "False", "FALSE",
   ".inf", ".Inf", ".INF", "+.inf", "+.Inf", "+.INF", "-.inf", "-.Inf", "-.INF",
   ".nan", ".NaN", ".NAN"]

/-- A text that a reader would take for something other than a text if it stood bare. -/
def resolves (cs : List Char) : Bool :=
  cs.isEmpty || words.contains (String.ofList cs) || isBased cs || Fraction.isNumber cs

/-! ## Styles -/

/-- How a text is written. -/
inductive Style where
  | plain
  | single
  | double
  | literal
deriving DecidableEq, Repr

/-- Whether a character with property `p` stands directly before one with property `q`. -/
def adjacent (p q : Char → Bool) : List Char → Bool
  | a :: b :: cs => (p a && q b) || adjacent p q (b :: cs)
  | _ => false

/-- The space. -/
def isSpace (c : Char) : Bool := c == ' '

/-- Signs that begin something other than a bare text. -/
def indicators : List Char :=
  ['#', ',', '[', ']', '\x7b', '\x7d', '&', '*', '!', '|', '>', '\'', '"', '%', '@', '\x60']

/-- Whether the start of a text keeps it from standing bare. -/
def badStart (cs : List Char) : Bool :=
  match cs with
  | [] => true
  | c :: rest =>
    indicators.contains c ||
    ((c == '-' || c == '?' || c == ':') && (match rest with
      | [] => true
      | d :: _ => d == ' ')) ||
    (Chars.after? ['-', '-', '-'] cs).isSome || (Chars.after? ['.', '.', '.'] cs).isSome

/-- Whether a sign inside a text keeps it from standing bare. -/
def badInside (cs : List Char) : Bool :=
  adjacent (· == ':') isSpace cs || adjacent isSpace (· == '#') cs || cs.getLast? == some ':'

/-- Whether a text may stand bare. -/
def plainAllowed (cs : List Char) : Bool :=
  cs.all isPrintable && !cs.any isBreak && cs.head? != some ' ' && cs.getLast? != some ' ' &&
    !badStart cs && !badInside cs

/-- Whether a text may stand between single quotes. -/
def singleAllowed (cs : List Char) : Bool :=
  cs.all isPrintable && !adjacent isBreak isSpace cs && !adjacent isSpace isBreak cs

/-- Whether a text may stand as a block of lines. -/
def literalAllowed (cs : List Char) : Bool :=
  cs.all isPrintable && !adjacent isSpace isBreak cs && cs.getLast? != some ' '

/-- How a text is written: several lines as a block where that keeps them, a text that reads as
itself bare, and all else between quotes. -/
def style (cs : List Char) : Style :=
  if cs.contains '\n' then
    if literalAllowed cs then .literal else .double
  else if plainAllowed cs && !resolves cs then .plain
  else if singleAllowed cs then .single
  else .double

/-! ## Written forms -/

/-- So many spaces. -/
def spaces (n : Nat) : List Char := List.replicate n ' '

/-- The lines of a text, each moved in by `n` spaces unless it is empty; `fresh` says that the
text begins at the start of a line. -/
def indented (n : Nat) (fresh : Bool) : List Char → List Char
  | [] => []
  | c :: cs =>
    if isBreak c then c :: indented n true cs
    else (if fresh then spaces n else []) ++ c :: indented n false cs

/-- A text with every single quote twice. -/
def doubleQuotes : List Char → List Char
  | [] => []
  | '\'' :: cs => '\'' :: '\'' :: doubleQuotes cs
  | c :: cs => c :: doubleQuotes cs

/-- The form between single quotes; lines after the first, also an empty last one, are moved in. -/
def writeSingle (n : Nat) (cs : List Char) : List Char :=
  let ends := match cs.getLast? with
    | some c => isBreak c
    | none => false
  '\'' :: indented n false (doubleQuotes cs) ++ (if ends then spaces n else []) ++ ['\'']

/-- What stands for a character between double quotes. -/
def escape (c : Char) : List Char :=
  match c with
  | '\x00' => ['\\', '0']
  | '\x07' => ['\\', 'a']
  | '\x08' => ['\\', 'b']
  | '\t' => ['\\', 't']
  | '\n' => ['\\', 'n']
  | '\x0b' => ['\\', 'v']
  | '\x0c' => ['\\', 'f']
  | '\r' => ['\\', 'r']
  | '\x1b' => ['\\', 'e']
  | '"' => ['\\', '"']
  | '\\' => ['\\', '\\']
  | '\u0085' => ['\\', 'N']
  | '\u2028' => ['\\', 'L']
  | '\u2029' => ['\\', 'P']
  | _ =>
    if isPrintable c then [c]
    else if c.toNat ≤ 0xFF then '\\' :: 'x' :: Hex.upperDigits 2 c.toNat
    else if c.toNat ≤ 0xFFFF then '\\' :: 'u' :: Hex.upperDigits 4 c.toNat
    else '\\' :: 'U' :: Hex.upperDigits 8 c.toNat

/-- The form between double quotes. -/
def writeDouble (cs : List Char) : List Char := '"' :: cs.flatMap escape ++ ['"']

/-- Whether the text begins with a character that would hide its indentation. -/
def needsIndentMark (cs : List Char) : Bool :=
  match cs with
  | c :: _ => isSpace c || isBreak c
  | [] => false

/-- How a block of lines ends: without a line break, with more than one, or with one. -/
def chompMark (cs : List Char) : List Char :=
  match cs.reverse with
  | [] => ['-']
  | [c] => if isBreak c then ['+'] else ['-']
  | c :: d :: _ => if isBreak c then (if isBreak d then ['+'] else []) else ['-']

/-- The form as a block of lines. -/
def writeLiteral (n : Nat) (cs : List Char) : List Char :=
  '|' :: (if needsIndentMark cs then ['2'] else []) ++ chompMark cs ++ '\n' :: indented n true cs

/-- The written form of a text whose further lines are moved in by `n` spaces. -/
def write (n : Nat) (cs : List Char) : List Char :=
  match style cs with
  | .plain => cs
  | .single => writeSingle n cs
  | .double => writeDouble cs
  | .literal => writeLiteral n cs

end NodeBootstrap.Scalar
