import NodeBootstrap.Yaml.Basic
import NodeBootstrap.Yaml.Scalar

/-!
# Writing documents

Records and lists are written as blocks, a field or an item to a line. The fields of a record
inside another stand two columns further in; the items of a list stand under its key.

* `Yaml.writeFields`, `Yaml.writeItems`: the lines of a record and of a list;
* `Yaml.write`: a whole document.
-/

namespace NodeBootstrap.Yaml

open Scalar

/-- Ends a line, unless a block of lines has ended it already. -/
def endLine (cs : List Char) : List Char :=
  match cs.getLast? with
  | some c => if isBreak c then cs else cs ++ ['\n']
  | none => ['\n']

/-- The rest of a line that holds a text. -/
def writeText (n : Nat) (s : String) : List Char := ' ' :: endLine (Scalar.write n s.toList)

/-- The rest of a line that holds a word of the format's own. -/
def writeWord (w : List Char) : List Char := ' ' :: w ++ ['\n']

/-- The spelling of a flag. -/
def flagWord (b : Bool) : List Char :=
  if b then ['t', 'r', 'u', 'e'] else ['f', 'a', 'l', 's', 'e']

mutual

/-- What follows the key of a field in a record whose keys stand `n` columns in. -/
def writeValue (n : Nat) : Yaml → List Char
  | text s => writeText (n + 2) s
  | number k => writeWord (Decimal.digits k)
  | flag b => writeWord (flagWord b)
  | list [] => writeWord ['[', ']']
  | list (y :: ys) => '\n' :: writeItems n (y :: ys)
  | record [] => writeWord ['\x7b', '\x7d']
  | record (f :: fs) => '\n' :: writeFields (n + 2) (f :: fs)
termination_by structural y => y

/-- The lines of items that stand `n` columns in. -/
def writeItems (n : Nat) : List Yaml → List Char
  | [] => []
  | y :: ys => spaces n ++ '-' :: writeItem n y ++ writeItems n ys
termination_by structural ys => ys

/-- What follows the dash of an item that stands `n` columns in. -/
def writeItem (n : Nat) : Yaml → List Char
  | text s => writeText (n + 2) s
  | number k => writeWord (Decimal.digits k)
  | flag b => writeWord (flagWord b)
  | list [] => writeWord ['[', ']']
  | list (y :: ys) => ' ' :: '-' :: writeItem (n + 2) y ++ writeItems (n + 2) ys
  | record [] => writeWord ['\x7b', '\x7d']
  | record (f :: fs) => ' ' :: writeField (n + 2) f ++ writeFields (n + 2) fs
termination_by structural y => y

/-- The lines of fields whose keys stand `n` columns in. -/
def writeFields (n : Nat) : List (String × Yaml) → List Char
  | [] => []
  | f :: fs => spaces n ++ writeField n f ++ writeFields n fs
termination_by structural fs => fs

/-- A field from its key on. -/
def writeField (n : Nat) : String × Yaml → List Char
  | (k, y) => k.toList ++ ':' :: writeValue n y
termination_by structural f => f

end

/-- A whole document. -/
def write : Yaml → List Char
  | record (f :: fs) => writeFields 0 (f :: fs)
  | list (y :: ys) => writeItems 0 (y :: ys)
  | text s => endLine (Scalar.write 2 s.toList)
  | number k => Decimal.digits k ++ ['\n']
  | flag b => flagWord b ++ ['\n']
  | list [] => ['[', ']', '\n']
  | record [] => ['\x7b', '\x7d', '\n']

end NodeBootstrap.Yaml
