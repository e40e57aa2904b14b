import NodeBootstrap.Text.Utf8

/-!
# Names and paths of a host

To a host the name of a file is bytes. They need not be those of a text.

* `OsText`: such a name, or a path;
* `OsText.ofText`, `OsText.shown`: the bytes of a text, and the text that is shown for bytes.
-/

namespace NodeBootstrap

/-- A name or a path as a host has it. -/
@[ext] structure OsText where
  bytes : List UInt8
deriving DecidableEq, Repr, Inhabited

namespace OsText

/-- The bytes of a text. -/
def ofText (s : String) : OsText := ⟨Utf8.encode s⟩

instance : Coe String OsText := ⟨ofText⟩

/-- The text that is shown for some bytes; a sign stands for those that are no text. -/
def shown (p : OsText) : String := String.ofList (Utf8.decode p.bytes)

instance : Append OsText := ⟨fun p q => ⟨p.bytes ++ q.bytes⟩⟩

@[simp] theorem bytes_append (p q : OsText) : (p ++ q).bytes = p.bytes ++ q.bytes := rfl

@[simp] theorem bytes_ofText (s : String) : (ofText s).bytes = Utf8.encode s := rfl

@[simp] theorem encode_empty : Utf8.encode "" = [] := rfl

theorem bytes_eq_nil_iff {p : OsText} : p.bytes = [] ↔ p = "" :=
  ⟨fun h => OsText.ext h, fun h => congrArg bytes h⟩

@[simp] theorem empty_append (p : OsText) : ofText "" ++ p = p := rfl

@[simp] theorem append_empty (p : OsText) : p ++ ofText "" = p := OsText.ext (by simp)

end OsText

end NodeBootstrap
