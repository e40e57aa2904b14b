import NodeBootstrap.Text.CharTable
import NodeBootstrap.Text.Hex

/-!
# Characters shown between quotes

An error message names a single character between quotes. A character that would not show there
is written as an escape.

* `Shown.char`: the character between quotes, escaped where needed.
-/

namespace NodeBootstrap.Shown

/-- What stands for a character between single quotes. -/
def escape (c : Char) : List Char :=
  match c with
  | '\x00' => ['\\', '0']
  | '\t' => ['\\', 't']
  | '\n' => ['\\', 'n']
  | '\r' => ['\\', 'r']
  | '\'' => ['\\', '\'']
  | '\\' => ['\\', '\\']
  | _ =>
    if CharTable.within CharTable.hiddenRanges c then
      ['\\', 'u', '\x7b'] ++ Hex.digits c.toNat ++ ['\x7d']
    else [c]

/-- The character between single quotes. -/
def char (c : Char) : String := String.ofList ('\'' :: escape c ++ ['\''])

end NodeBootstrap.Shown
