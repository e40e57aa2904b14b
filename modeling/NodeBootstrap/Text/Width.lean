import NodeBootstrap.Text.CharTable

/-!
# Columns on a terminal

* `charColumns`: the columns that a character takes by itself;
* `columns`: the columns of a text, where U+FE0F after a narrow picture makes it wide.
-/

namespace NodeBootstrap.Width

/-- The columns that a character takes by itself; a control character takes one. -/
def charColumns (c : Char) : Nat :=
  if c.toNat < 0x7F then 1
  else if CharTable.within CharTable.flatRanges c then 0
  else if CharTable.within CharTable.wideRanges c then 2
  else 1

/-- The columns of a text. -/
def columns : List Char → Nat
  | [] => 0
  | c :: '\uFE0F' :: cs =>
    (if CharTable.within CharTable.pictureRanges c then 2 else charColumns c) + columns cs
  | '\r' :: '\n' :: cs => 1 + columns cs
  | c :: cs => charColumns c + columns cs

end NodeBootstrap.Width
