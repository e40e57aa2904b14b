import NodeBootstrap.Text.Cut
import NodeBootstrap.Text.OsText

/-!
# Paths

A path is names with slashes between them. Empty names count nothing, nor does a single dot, except
at the start of a path.

* `Path.parent?`, `Path.fileName?`: the two sides of a path's last name;
* `Path.extension?`: the end of a file's name after its last dot;
* `Path.join`: a name inside a directory.
-/

namespace NodeBootstrap.Path

/-- What stands between the names of a path. -/
def slash : UInt8 := 0x2F

@[simp] theorem encode_slash : Utf8.encode "/" = [slash] := rfl

/-- What stands before the extension of a name. -/
def dot : UInt8 := 0x2E

@[simp] theorem encode_dot : Utf8.encode "." = [dot] := rfl

/-- The parts of a path between slashes. -/
def parts (path : OsText) : List OsText := (Chars.pieces slash path.bytes).map OsText.mk

/-- Parts with a slash between each two. -/
def glue (parts : List OsText) : OsText := ⟨Chars.glue [slash] (parts.map OsText.bytes)⟩

/-- A part that counts nothing; the first part of a path counts unless it is empty. -/
def isIdle (part : OsText) (first : Bool) : Bool := part = "" || (part = "." && !first)

/-- Reversed parts without the idle ones at the end. -/
def dropIdle : List OsText → List OsText
  | [] => []
  | p :: ps => if isIdle p ps.isEmpty then dropIdle ps else p :: ps

/-- The reversed parts of a path from its last name on. -/
def tail (path : OsText) : List OsText := dropIdle (parts path).reverse

/-- Whether a path begins at the root. -/
def isAbsolute (path : OsText) : Bool := path.bytes.head? = some slash

/-- Whether a path ends with a slash. -/
def endsInSlash (path : OsText) : Bool := path.bytes.getLast? = some slash

/-- The path without its last name; a path without a name has no parent. -/
def parent? (path : OsText) : Option OsText :=
  match tail path with
  | [] => none
  | _ :: rest =>
    match dropIdle rest with
    | [] => some (if isAbsolute path then "/" else "")
    | ps => some (glue ps.reverse)

/-- The last name of a path, unless it leads to a directory above. -/
def fileName? (path : OsText) : Option OsText :=
  match tail path with
  | [] => none
  | p :: _ => if p = "." ∨ p = ".." then none else some p

/-- The end of a name after its last dot; a dot at the start of a name does not count. -/
def extension? (name : OsText) : Option OsText :=
  match Chars.cutLast dot name.bytes with
  | some (stem, ext) => if stem = [] then none else some ⟨ext⟩
  | none => none

/-- A name inside a directory; a name that begins at the root is a path of its own. -/
def join (dir name : OsText) : OsText :=
  if isAbsolute name then name
  else if dir = "" ∨ endsInSlash dir then dir ++ name
  else dir ++ "/" ++ name

end NodeBootstrap.Path
