import NodeBootstrap.Template.Token

/-!
# Pieces of a template

A template is text with marked places in it: values to print, tags, comments and raw text. A mark
may ask for the blanks next to it to be dropped.

* `Piece`: a stretch of text, a value to print or a tag;
* `Piece.split`: the pieces of a template.
-/

namespace NodeBootstrap.Template

/-- A part of a template. -/
inductive Piece where
  | literal (s : List Char)
  | output (ts : List Token)
  | tag (ts : List Token)
deriving Repr, Inhabited

/-- The kinds of marked places. -/
inductive Place where
  | output
  | tag
  | comment
deriving DecidableEq, Repr

namespace Piece

/-- The kind of place that a character after an opening brace begins. -/
def place? : Char → Option Place
  | '\x7b' => some .output
  | '%' => some .tag
  | '#' => some .comment
  | _ => none

/-- The text before the first marked place, its kind, and the text after its mark. -/
def opening? : List Char → Option (List Char × Place × List Char)
  | [] => none
  | [_] => none
  | c :: d :: cs =>
    match (if c = '\x7b' then place? d else none) with
    | some p => some ([], p, cs)
    | none => (opening? (d :: cs)).map fun (before, p, rest) => (c :: before, p, rest)

/-- Whether a mark asks for dropped blanks, and the text after the sign that says so. -/
def control : List Char → Bool × List Char
  | '-' :: cs => (true, cs)
  | '+' :: cs => (false, cs)
  | cs => (false, cs)

/-- The end of a marked place: whether it asks for dropped blanks, and the text after it. -/
def closing? (close : List Char) (cs : List Char) : Option (Bool × List Char) :=
  let (drop, rest) := control cs
  (Chars.after? close rest).map fun rest => (drop, rest)

/-- The depth of brackets after a token. -/
def depthAfter (depth : Nat) : Token → Nat
  | .sign s =>
    if s = "(" ∨ s = "[" ∨ s = "\x7b" then depth + 1
    else if s = ")" ∨ s = "]" ∨ s = "\x7d" then depth - 1
    else depth
  | _ => depth

/-- The tokens up to the end of a marked place, which does not lie inside brackets; whether the end
asks for dropped blanks; and the text after it. -/
def tokens (close : List Char) :
    (fuel : Nat) → (depth : Nat) → List Char → Option (List Token × Bool × List Char)
  | 0, _, _ => none
  | fuel + 1, depth, cs =>
    let cs := cs.dropWhile Token.isGap
    match (if depth = 0 then closing? close cs else none) with
    | some (drop, rest) => some ([], drop, rest)
    | none => do
      let (t, rest) ← Token.read cs
      let (ts, drop, rest) ← tokens close fuel (depthAfter depth t) rest
      return (t :: ts, drop, rest)

/-! ## Comments and raw text -/

/-- The text inside a comment and the text after it. -/
def comment? : List Char → Option (List Char × List Char)
  | [] => none
  | '#' :: '\x7d' :: cs => some ([], cs)
  | c :: cs => (comment? cs).map fun (inside, rest) => (c :: inside, rest)

/-- The mark that ends a tag. -/
def tagEnd : List Char := ['%', '\x7d']

/-- The end of a tag of one given word: whether it asks for dropped blanks, and the text after. -/
def bareTag? (word : String) (cs : List Char) : Option (Bool × List Char) :=
  match Chars.after? word.toList (cs.dropWhile Token.isGap) with
  | some rest => closing? tagEnd (rest.dropWhile Token.isGap)
  | none => none

/-- Raw text up to the tag that ends it; whether the blanks before and after that tag are dropped;
and the text after it. -/
def raw? : List Char → Option (List Char × Bool × Bool × List Char)
  | [] => none
  | '\x7b' :: '%' :: cs =>
    match bareTag? "endraw" (control cs).2 with
    | some (dropAfter, rest) => some ([], (control cs).1, dropAfter, rest)
    | none => (raw? ('%' :: cs)).map fun (s, r) => ('\x7b' :: s, r)
  | c :: cs => (raw? cs).map fun (s, r) => (c :: s, r)

/-- The text without the blanks at its start, where asked. -/
def dropStart (drop : Bool) (cs : List Char) : List Char := if drop then Chars.trimStart cs else cs

/-- The text without the blanks at its end, where asked. -/
def dropEnd (drop : Bool) (cs : List Char) : List Char := if drop then Chars.trimEnd cs else cs

/-! ## Templates -/

/-- The pieces of a template from some place on. -/
def splitFrom : (fuel : Nat) → (drop : Bool) → List Char → Option (List Piece)
  | 0, _, _ => none
  | fuel + 1, drop, cs =>
    match opening? (dropStart drop cs) with
    | none => some [literal (dropStart drop cs)]
    | some (before, .comment, rest) => do
      let (inside, after) ← comment? rest
      let ps ← splitFrom fuel (inside.getLast? = some '-') after
      return literal (dropEnd (control rest).1 before) :: ps
    | some (before, .output, rest) => do
      let (dropBefore, rest) := control rest
      let (ts, drop, after) ← tokens ['\x7d', '\x7d'] (rest.length + 1) 0 rest
      let ps ← splitFrom fuel drop after
      return literal (dropEnd dropBefore before) :: output ts :: ps
    | some (before, .tag, rest) => do
      let (dropBefore, rest) := control rest
      match bareTag? "raw" rest with
      | some (dropFirst, inside) => do
        let (s, dropLast, drop, after) ← raw? inside
        let ps ← splitFrom fuel drop after
        return literal (dropEnd dropBefore before) ::
          literal (dropEnd dropLast (dropStart dropFirst s)) :: ps
      | none => do
        let (ts, drop, after) ← tokens tagEnd (rest.length + 1) 0 rest
        let ps ← splitFrom fuel drop after
        return literal (dropEnd dropBefore before) :: tag ts :: ps

/-- The pieces of a template, unless a mark is left open or something between marks is no token. -/
def split (cs : List Char) : Option (List Piece) := splitFrom (cs.length + 1) false cs

end Piece

end NodeBootstrap.Template
