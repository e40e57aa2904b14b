import NodeBootstrap.Text.Break

/-!
# Places in a document

What a word of a document means depends on how far it stands from the start of its line.

* `Spot`: a place in a document that is not blank;
* `Spot.next`: the first such place in a text;
* `Spot.isMark`: the lines between documents;
* `Lines.fold`: what ends of lines inside a text stand for.
-/

namespace NodeBootstrap

/-- A blank inside a line of a document. -/
def isGap (c : Char) : Bool := c == ' ' || c == '\t'

/-- Whether a text begins with a blank, with the end of a line, or not at all. -/
def startsBlank : List Char → Bool
  | [] => true
  | c :: _ => isGap c || isBreak c

/-- A place in a document: its distance from the start of the line and the text from it on. -/
structure Spot where
  column : Nat
  rest : List Char
deriving DecidableEq, Repr, Inhabited

namespace Spot

/-- The first place in a text that holds neither a space, nor the end of a line, nor a comment. -/
def nextFrom (column : Nat) (comment : Bool) : List Char → Spot
  | [] => ⟨0, []⟩
  | c :: cs =>
    if isBreak c then nextFrom 0 false cs
    else if comment then nextFrom column true cs
    else if c = ' ' then nextFrom (column + 1) false cs
    else if c = '#' then nextFrom column true cs
    else ⟨column, c :: cs⟩

/-- The first such place in a text that begins at a given distance from the start of its line. -/
def next (column : Nat) (cs : List Char) : Spot := nextFrom column false cs

/-- Three characters that stand alone at the start of a text. -/
def startsMark (c : Char) : List Char → Bool
  | x :: y :: z :: cs => x == c && y == c && z == c && startsBlank cs
  | _ => false

/-- The start or the end of a document at the start of a text. -/
def startsAnyMark (cs : List Char) : Bool := startsMark '-' cs || startsMark '.' cs

/-- The line that starts or ends a document. -/
def isMark (s : Spot) : Bool := s.column == 0 && startsAnyMark s.rest

/-- Nothing more of the document. -/
def isEnd (s : Spot) : Bool := s.rest.isEmpty || s.isMark

/-- A given sign that stands alone, and the text after it. -/
def sign? (c : Char) (s : Spot) : Option (List Char) :=
  match s.rest with
  | d :: cs => if c = d ∧ startsBlank cs then some cs else none
  | [] => none

end Spot

/-- The place after the rest of a line that holds nothing but blanks and a comment. -/
def restOfLine (cs : List Char) : Option Spot :=
  match cs.dropWhile isGap with
  | [] => some ⟨0, []⟩
  | c :: r => if isBreak c || c == '#' then some (Spot.next 0 (c :: r)) else none

namespace Lines

/-- Ends of lines and blanks at the start of a text: the ends of lines, the distance from the
start of the last line, and the text after them. A tab before column `least` is an error. -/
def skip (least : Nat) : (column : Nat) → List Char → Option (List Char × Spot)
  | _, [] => some ([], ⟨0, []⟩)
  | _, '\r' :: '\n' :: cs => (skip least 0 cs).map fun (bs, s) => ('\n' :: bs, s)
  | column, c :: cs =>
    if c = ' ' then skip least (column + 1) cs
    else if c = '\t' then if column < least then none else skip least (column + 1) cs
    else if isBreak c then
      (skip least 0 cs).map fun (bs, s) =>
        ((if c == '\u2028' || c == '\u2029' then c else '\n') :: bs, s)
    else some ([], ⟨column, c :: cs⟩)

/-- What ends of lines between two words stand for: one line feed joins them by a space, and
further ones stand for themselves. -/
def fold : List Char → List Char
  | ['\n'] => [' ']
  | '\n' :: bs => bs
  | bs => bs

end Lines

end NodeBootstrap
