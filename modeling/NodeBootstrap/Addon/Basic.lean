import NodeBootstrap.Files.Tree

/-!
# Add-ons

An add-on is a template of a manifest. It is read from a file, rendered with the cluster's
parameters, and written under its own name before it is applied. Its name is a text, also where the
name of the file is none.

* `Addon.ofFile`: an add-on from a file;
* `Addon.selected`: the regular files of a directory that are add-ons, in the order of their names;
* `Addon.loadDir`: all add-ons of a directory;
* `Addon.targetPath`: where the rendered manifest goes.
-/

namespace NodeBootstrap

/-- A template of a manifest. -/
structure Addon where
  name : String
  template : String
deriving DecidableEq, Repr, Inhabited

namespace Addon

/-- The extensions of files that are add-ons. -/
def extensions : List OsText := ["yaml", "yml", "j2"]

/-- The end of a name that marks a template. -/
def templateSuffix : List Char := ['.', 'j', '2']

/-- Reversed characters without any number of repetitions of `part` at their start. -/
def dropRepeated (part : List Char) : (fuel : Nat) → List Char → List Char
  | 0, cs => cs
  | fuel + 1, cs =>
    match Chars.after? part cs with
    | some rest => dropRepeated part fuel rest
    | none => cs

/-- The text of a file's name without the marks of a template at its end. -/
def nameOf (fileName : String) : String :=
  let reversed := dropRepeated templateSuffix.reverse fileName.length fileName.toList.reverse
  String.ofList reversed.reverse

/-- An add-on from a file. -/
def ofFile (t : FileTree) (path : OsText) : Except Failure Addon :=
  match t.readText path with
  | .error e => .error (.filesystem path e)
  | .ok template =>
    match Path.fileName? path with
    | some fileName => .ok ⟨nameOf fileName.shown, template⟩
    | none => .error (.config (.badAddonPath path))

/-- Whether a name has an extension of add-ons. -/
def hasExtension (name : OsText) : Bool := (Path.extension? name).any extensions.contains

/-- Those names in a directory that are add-ons, in order. -/
def selected (t : FileTree) (dir : OsText) (names : List OsText) : List OsText :=
  (names.filter fun name => t.isFile (Path.join dir name) && hasExtension name).mergeSort
    fun a b => a.bytes ≤ b.bytes

/-- The add-ons of a directory with given names; the first that cannot be read fails. -/
def readAll (t : FileTree) (dir : OsText) : List OsText → Except Failure (List Addon)
  | [] => .ok []
  | name :: names => do
    let a ← ofFile t (Path.join dir name)
    let as ← readAll t dir names
    return a :: as

/-- All add-ons of a directory, in the order of their files' names. -/
def loadDir (t : FileTree) (dir : OsText) : Except Failure (List Addon) :=
  match t.listing dir with
  | .error e => .error (.filesystem dir e)
  | .ok listing => readAll t dir (selected t dir (listing.map (·.1)))

/-- Where the rendered manifest goes. -/
def targetPath (a : Addon) (dir : OsText) : OsText := Path.join dir a.name

end Addon

end NodeBootstrap
