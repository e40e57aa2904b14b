import NodeBootstrap.Act
import NodeBootstrap.Files.Path

/-!
# File trees

A tree holds what the program may see of a host's files. Every file and directory is stored under
the names that lead to it from the directory the program works in. A call that writes may also go
wrong for what no tree shows, such as a disk without room; the tree has in store which calls do.

* `Content`, `FileEntry`, `FileTree`: files, directories and trees;
* `FileTree.walk`: the way along a path, with what the host answers where it ends;
* `FileTree.place`: an entry at a path;
* `FileTree.call`: a call that writes;
* `FileTree.makeDirs`, `FileTree.openNew`, `FileTree.restrict`, `FileTree.writeAll`,
  `FileTree.readText`, `FileTree.listing`: the calls on a tree.
-/

namespace NodeBootstrap

/-- What a file holds: a text, or bytes that are no text. -/
inductive Content where
  | text (s : String)
  | bytes (bs : List UInt8)
deriving DecidableEq, Repr, Inhabited

namespace Content

/-- The bytes of a content. -/
def octets : Content → List UInt8
  | text s => Utf8.encode s
  | bytes bs => bs

/-- The content that some bytes are. -/
def ofOctets (bs : List UInt8) : Content :=
  let s := String.ofList (Utf8.decode bs)
  if Utf8.encode s = bs then text s else bytes bs

@[simp] theorem octets_ofOctets (bs : List UInt8) : (ofOctets bs).octets = bs := by
  unfold ofOctets
  dsimp only
  split
  · assumption
  · rfl

end Content

/-- A file or a directory, with the permissions on it. -/
inductive FileEntry where
  | file (mode : Nat) (content : Content)
  | directory (mode : Nat)
deriving DecidableEq, Repr, Inhabited

namespace FileEntry

/-- Whether the entry is a directory. -/
def isDirectory : FileEntry → Bool
  | directory _ => true
  | file .. => false

end FileEntry

/-- What makes a call go wrong that writes: the host's answer, and the number of bytes that have
been written by then. -/
structure Mishap where
  fault : OsFault
  written : Nat := 0
deriving DecidableEq, Repr

/-- Files and directories by the names that lead to them, and what goes wrong in the calls that
write, one after the other. -/
structure FileTree where
  entries : List (List OsText × FileEntry) := []
  mishaps : List (Option Mishap) := []
deriving DecidableEq, Repr, Inhabited

namespace FileTree

/-- The names that lead to the root of the host. -/
def hostRoot : List OsText := ["/"]

/-- The entry under given names. The directory the program works in and the root of the host are
always there. -/
def find? (t : FileTree) (names : List OsText) : Option FileEntry :=
  if names = [] ∨ names = hostRoot then some (.directory 0o755)
  else (t.entries.find? fun e => e.1 == names).map (·.2)

/-- Entries with another one under given names. -/
def setEntry (names : List OsText) (e : FileEntry) :
    List (List OsText × FileEntry) → List (List OsText × FileEntry)
  | [] => [(names, e)]
  | x :: xs => if x.1 = names then (names, e) :: xs else x :: setEntry names e xs

/-- The tree with another entry under given names. -/
def set (t : FileTree) (names : List OsText) (e : FileEntry) : FileTree :=
  { t with entries := setEntry names e t.entries }

/-! ## Ways -/

/-- The longest name and the longest path, in bytes. -/
def nameLimit : Nat := 255

/-- The longest path in bytes. -/
def pathLimit : Nat := 4095

/-- One step from a directory. -/
def step (t : FileTree) (here : List OsText) (name : OsText) : Except OsFault (List OsText) :=
  match t.find? here with
  | some (.directory _) =>
    if name = "." then .ok here
    else if name = ".." then .ok (if here = hostRoot then here else here.dropLast)
    else if nameLimit < name.bytes.length then .error .nameTooLong
    else
      match t.find? (here ++ [name]) with
      | some _ => .ok (here ++ [name])
      | none => .error .notFound
  | some (.file ..) => .error .notDirectory
  | none => .error .notFound

/-- The steps of a way, one after the other. -/
def walk (t : FileTree) (here : List OsText) : List OsText → Except OsFault (List OsText)
  | [] => .ok here
  | name :: names =>
    match t.step here name with
    | .ok next => walk t next names
    | .error e => .error e

/-- The names on the way of a path. -/
def steps (path : OsText) : List OsText := (Path.parts path).filter (· ≠ "")

/-- Where a path begins. -/
def start (path : OsText) : List OsText := if Path.isAbsolute path then hostRoot else []

/-- What makes a path unusable from the first. -/
def refuse (path : OsText) : Except OsFault Unit :=
  if path.bytes.contains 0 then .error .nulInPath
  else if path = "" then .error .notFound
  else if pathLimit < path.bytes.length then .error .nameTooLong
  else .ok ()

/-- The names of the entry that a path leads to; a slash at the end asks for a directory. -/
def locate (t : FileTree) (path : OsText) : Except OsFault (List OsText) := do
  refuse path
  walk t (start path) (steps path ++ (if Path.endsInSlash path then ["."] else [] : List OsText))

/-- The entry that a path leads to. -/
def entry? (t : FileTree) (path : OsText) : Option FileEntry :=
  match t.locate path with
  | .ok names => t.find? names
  | .error _ => none

/-- Whether a path leads anywhere. -/
def isThere (t : FileTree) (path : OsText) : Bool := (t.entry? path).isSome

/-- Whether a path leads to a directory. -/
def isDirectory (t : FileTree) (path : OsText) : Bool := (t.entry? path).any FileEntry.isDirectory

/-- Whether a path leads to a regular file. -/
def isFile (t : FileTree) (path : OsText) : Bool := (t.entry? path).any fun e => !e.isDirectory

/-- The directory in which the last name of a path stands, and that name. -/
def locateLast (t : FileTree) (path : OsText) :
    Except OsFault (List OsText × Option OsText) := do
  refuse path
  match (steps path).getLast? with
  | none => return (start path, none)
  | some name => do
    let here ← walk t (start path) (steps path).dropLast
    match t.find? here with
    | some (.directory _) => return (here, some name)
    | _ => throw .notDirectory

/-! ## Placing -/

/-- The tree with directories under all the names that lead to the last of some names. -/
def withParents (names : List OsText) (t : FileTree) : FileTree :=
  (List.range (names.length - 1)).foldl
    (fun t k => t.set (names.take (k + 1)) (.directory 0o755)) t

/-- The tree with an entry at a path, and with directories that lead there. -/
def place (path : OsText) (e : FileEntry) (t : FileTree) : FileTree :=
  let names := start path ++ steps path
  (t.withParents names).set names e

/-! ## Calls -/

/-- What goes wrong in the next call that writes. -/
def mishap? (t : FileTree) : Option Mishap := t.mishaps.head?.join

/-- The tree once the next call that writes has been made, whatever came of it. -/
def called (t : FileTree) : FileTree := { t with mishaps := t.mishaps.tail }

/-- A call that writes. If something goes wrong nothing has been done. -/
def call (f : FileTree → Except OsFault (α × FileTree)) (t : FileTree) :
    Except OsFault α × FileTree :=
  match t.mishap? with
  | some m => (.error m.fault, t.called)
  | none =>
    match f t.called with
    | .ok (a, t) => (.ok a, t)
    | .error e => (.error e, t.called)

/-- The tree with one more directory. -/
def makeDir (mode : Nat) (path : OsText) (t : FileTree) : Except OsFault FileTree := do
  match ← t.locateLast path with
  | (_, none) => throw .alreadyExists
  | (here, some name) =>
    if name = "." ∨ name = ".." then throw .alreadyExists
    else if nameLimit < name.bytes.length then throw .nameTooLong
    else
      match t.find? (here ++ [name]) with
      | some _ => throw .alreadyExists
      | none => return t.set (here ++ [name]) (.directory mode)

/-- Makes one directory. -/
def mkdir (mode : Nat) (path : OsText) : FileTree → Except OsFault Unit × FileTree :=
  call fun t => return ((), ← t.makeDir mode path)

/-- Makes a directory unless a directory is there. -/
def ensureDir (mode : Nat) (path : OsText) (t : FileTree) : Except OsFault Unit × FileTree :=
  match mkdir mode path t with
  | (.ok (), t) => (.ok (), t)
  | (.error e, t) => if t.isDirectory path then (.ok (), t) else (.error e, t)

/-- Makes a directory and those above it that are missing. -/
def makeDirs (mode : Nat) : (fuel : Nat) → OsText → FileTree → Except OsFault Unit × FileTree
  | 0, _, t => (.error .notFound, t)
  | fuel + 1, path, t =>
    if path = "" then (.ok (), t)
    else
      match mkdir mode path t with
      | (.ok (), t) => (.ok (), t)
      | (.error .notFound, t) =>
        match Path.parent? path with
        | none => (.error .notFound, t)
        | some parent =>
          match makeDirs mode fuel parent t with
          | (.error e, t) => (.error e, t)
          | (.ok (), t) => ensureDir mode path t
      | (.error e, t) => if t.isDirectory path then (.ok (), t) else (.error e, t)

/-- The names of the file that a path leads to, made where it is missing, and emptied. -/
def openNew (mode : Nat) (path : OsText) (t : FileTree) :
    Except OsFault (List OsText × FileTree) := do
  match ← t.locateLast path with
  | (_, none) => throw .isDirectory
  | (here, some name) =>
    if Path.endsInSlash path then throw .isDirectory
    else if name = "." ∨ name = ".." then throw .isDirectory
    else if nameLimit < name.bytes.length then throw .nameTooLong
    else
      match t.find? (here ++ [name]) with
      | some (.directory _) => throw .isDirectory
      | some (.file m _) => return (here ++ [name], t.set (here ++ [name]) (.file m (.text "")))
      | none => return (here ++ [name], t.set (here ++ [name]) (.file mode (.text "")))

/-- Gives an open file that has been emptied its permissions. -/
def restrict (mode : Nat) (names : List OsText) : FileTree → Except OsFault Unit × FileTree :=
  call fun t => return ((), t.set names (.file mode (.text "")))

/-- Writes a text to an open file. If something goes wrong a beginning of the text stays. -/
def writeAll (mode : Nat) (names : List OsText) (text : String) (t : FileTree) :
    Except OsFault Unit × FileTree :=
  match t.mishap?.filter fun m => m.written < (Utf8.encode text).length with
  | some m =>
    let written := Content.ofOctets ((Utf8.encode text).take m.written)
    (.error m.fault, t.called.set names (.file mode written))
  | none => (.ok (), t.called.set names (.file mode (.text text)))

/-- The text of the file that a path leads to. -/
def readText (t : FileTree) (path : OsText) : Except OsFault String := do
  let names ← t.locate path
  match t.find? names with
  | some (.file _ (.text s)) => return s
  | some (.file _ (.bytes _)) => throw .notText
  | some (.directory _) => throw .isDirectory
  | none => throw .notFound

/-- The last name of names that lead into a directory. -/
def nameIn (here : List OsText) (names : List OsText) : Option OsText :=
  match names.getLast? with
  | some name => if here ++ [name] = names then some name else none
  | none => none

/-- The names and entries in the directory that a path leads to. -/
def listing (t : FileTree) (path : OsText) : Except OsFault (List (OsText × FileEntry)) := do
  let names ← t.locate path
  match t.find? names with
  | some (.directory _) =>
    return t.entries.filterMap fun e => (nameIn names e.1).map fun name => (name, e.2)
  | _ => throw .notDirectory

end FileTree

end NodeBootstrap
