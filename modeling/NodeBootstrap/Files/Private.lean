import NodeBootstrap.Files.Tree

/-!
# Private files

A file that holds secrets is for its owner alone, and so are the directories made for it.

* `PrivateFile.prepare`, `PrivateFile.put`: the two parts of writing, the directories and the file;
* `PrivateFile.write`: writes such a file, in place of what the path led to before.
-/

namespace NodeBootstrap.PrivateFile

/-- The permissions on a private file. -/
def fileMode : Nat := 0o600

/-- The permissions on a directory made for one. -/
def dirMode : Nat := 0o700

/-- Makes the directories that are missing for a path. -/
def prepare (path : OsText) (t : FileTree) : Except Failure Unit × FileTree :=
  match Path.parent? path with
  | none => (.ok (), t)
  | some parent =>
    match FileTree.makeDirs dirMode (parent.bytes.length + 1) parent t with
    | (.ok (), t) => (.ok (), t)
    | (.error e, t) => (.error (.filesystem parent e), t)

/-- Puts a text into the file that a path leads to. What has been done to the file stays also when
it does not succeed. -/
def put (path : OsText) (text : String) (t : FileTree) : Except OsFault Unit × FileTree :=
  match FileTree.call (FileTree.openNew fileMode path) t with
  | (.error e, t) => (.error e, t)
  | (.ok names, t) =>
    match FileTree.restrict fileMode names t with
    | (.error e, t) => (.error e, t)
    | (.ok (), t) => FileTree.writeAll fileMode names text t

/-- Puts a text into the file, and names the path if that fails. -/
def fill (path : OsText) (text : String) (t : FileTree) : Except Failure Unit × FileTree :=
  match put path text t with
  | (.ok (), t) => (.ok (), t)
  | (.error e, t) => (.error (.filesystem path e), t)

/-- Writes a text to a path, readable by the owner only. -/
def write (path : OsText) (text : String) : Act FileTree Unit := do
  Act.of (prepare path)
  Act.of (fill path text)

end NodeBootstrap.PrivateFile
