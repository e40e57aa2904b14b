import NodeBootstrap.Text.Cut

/-!
# Words of the command line

* `Word`: a word by its form;
* `Word.of`: the form of a word.
-/

namespace NodeBootstrap.CommandLine

/-- A word by its form. -/
inductive Word where
  /-- Two dashes alone, after which no settings come. -/
  | dashes
  /-- A long spelling after two dashes, and a value after an equals sign. -/
  | long (name : String) (value : Option String)
  /-- A letter after one dash, and the text after it. -/
  | short (letter : Char) (rest : List Char)
  | plain (text : String)
deriving DecidableEq, Repr, Inhabited

namespace Word

/-- A long spelling with its value. -/
def ofLong (cs : List Char) : Word :=
  match Chars.cut '=' cs with
  | some (name, value) => .long (String.ofList name) (some (String.ofList value))
  | none => .long (String.ofList cs) none

/-- The form of a word; a dash alone is plain. -/
def of (s : String) : Word :=
  match s.toList with
  | ['-', '-'] => .dashes
  | '-' :: '-' :: cs => ofLong cs
  | '-' :: c :: cs => .short c cs
  | _ => .plain s

/-- The value in the text after a letter, less an equals sign before it. -/
def valueIn : List Char → Option String
  | [] => none
  | '=' :: cs => some (String.ofList cs)
  | cs => some (String.ofList cs)

end Word

end NodeBootstrap.CommandLine
