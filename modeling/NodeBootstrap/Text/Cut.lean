import NodeBootstrap.Text.Blank

/-!
# Cutting texts at a separator

The characters of a text are cut, and so are the bytes of a name.

* `cut`, `cutLast`: the two sides of the first, or of the last, separator;
* `pieces`: all the parts between separators, at least one;
* `glue`: parts joined by a separator, which `pieces` takes apart again;
* `Text.listed`: the entries of a list written with commas.
-/

namespace NodeBootstrap

namespace Chars

variable {α : Type}

/-- The two sides of the first separator, if there is one. -/
def cut [DecidableEq α] (sep : α) : List α → Option (List α × List α)
  | [] => none
  | c :: cs => if c = sep then some ([], cs) else (cut sep cs).map fun (a, b) => (c :: a, b)

/-- The two sides of the last separator, if there is one. -/
def cutLast [DecidableEq α] (sep : α) : List α → Option (List α × List α)
  | [] => none
  | c :: cs =>
    match cutLast sep cs with
    | some (a, b) => some (c :: a, b)
    | none => if c = sep then some ([], cs) else none

/-- All the parts between separators, in order; a text without a separator is its one part. -/
def pieces [DecidableEq α] (sep : α) : List α → List (List α)
  | [] => [[]]
  | c :: cs =>
    if c = sep then [] :: pieces sep cs
    else match pieces sep cs with
      | [] => [[c]]
      | p :: ps => (c :: p) :: ps

/-- The parts with a separator between each two. -/
def glue (sep : List α) : List (List α) → List α
  | [] => []
  | [p] => p
  | p :: q :: ps => p ++ sep ++ glue sep (q :: ps)

/-- The rest of a text that begins with `front`. -/
def after? [DecidableEq α] : (front : List α) → List α → Option (List α)
  | [], cs => some cs
  | _ :: _, [] => none
  | f :: fs, c :: cs => if f = c then after? fs cs else none

/-- The start of a text that ends with `back`. -/
def before? [DecidableEq α] (back cs : List α) : Option (List α) :=
  (after? back.reverse cs.reverse).map List.reverse

/-- Whether `part` occurs somewhere in the text. -/
def occurs [DecidableEq α] (part : List α) : List α → Bool
  | [] => part.isEmpty
  | c :: cs => (after? part (c :: cs)).isSome || occurs part cs

end Chars

namespace Text

/-- The two sides of the first separator, if there is one. -/
def cut (sep : Char) (s : String) : Option (String × String) :=
  (Chars.cut sep s.toList).map fun (a, b) => (String.ofList a, String.ofList b)

/-- All the parts between separators, in order. -/
def pieces (sep : Char) (s : String) : List String :=
  (Chars.pieces sep s.toList).map String.ofList

/-- The parts with a separator between each two. -/
def glue (sep : String) (parts : List String) : String :=
  String.ofList (Chars.glue sep.toList (parts.map String.toList))

/-- The entries of a list written with commas: its parts, trimmed and without the blank ones. -/
def listed (s : String) : List String := ((pieces ',' s).map trim).filter (· ≠ "")

/-- Whether `part` occurs somewhere in the text. -/
def occurs (part s : String) : Bool := Chars.occurs part.toList s.toList

end Text

end NodeBootstrap
