/-!
# Blank characters

Everything an operator types is read without the blank characters around it, and a setting of
blank characters only counts as absent.

* `isBlank`: the Unicode property `White_Space`;
* `Chars.trim`, `Text.trim`: a text without the blanks at either end;
* `Text.nonBlank`: an optional setting, trimmed, or none when nothing is left.
-/

namespace NodeBootstrap

/-- A blank character: one with the Unicode property `White_Space`. -/
def isBlank (c : Char) : Bool :=
  ('\t' ≤ c && c ≤ '\r') || c == ' ' || c == '\u0085' || c == '\u00A0' || c == '\u1680' ||
  ('\u2000' ≤ c && c ≤ '\u200A') || c == '\u2028' || c == '\u2029' || c == '\u202F' ||
  c == '\u205F' || c == '\u3000'

namespace Chars

/-- The text from its first character that is not blank. -/
def trimStart (cs : List Char) : List Char := cs.dropWhile isBlank

/-- The text up to its last character that is not blank. -/
def trimEnd (cs : List Char) : List Char := (cs.reverse.dropWhile isBlank).reverse

/-- The text without the blanks at either end. -/
def trim (cs : List Char) : List Char := trimEnd (trimStart cs)

end Chars

namespace Text

/-- The text without the blanks at either end. -/
def trim (s : String) : String := String.ofList (Chars.trim s.toList)

/-- Nothing but blanks. -/
def blank (s : String) : Bool := s.toList.all isBlank

/-- An optional setting counts only when something other than blanks is in it; it is read
without the blanks around it. -/
def nonBlank (s : Option String) : Option String := (s.map trim).filter (· ≠ "")

end Text

end NodeBootstrap
