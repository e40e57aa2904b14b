/-!
# Ends of lines

* `isBreak`: the characters that end a line of a document;
* `Chars.takeBreak?`: the end of a line at the start of a text, in its plain form.
-/

namespace NodeBootstrap

/-- A character that ends a line of a document. -/
def isBreak (c : Char) : Bool :=
  c == '\n' || c == '\r' || c == '\u0085' || c == '\u2028' || c == '\u2029'

/-- The end of a line at the start of a text, and the text after it. All ends of lines but the
separators U+2028 and U+2029 count as a line feed. -/
def Chars.takeBreak? : List Char → Option (Char × List Char)
  | '\r' :: '\n' :: cs => some ('\n', cs)
  | c :: cs =>
    if c == '\u2028' || c == '\u2029' then some (c, cs)
    else if isBreak c then some ('\n', cs)
    else none
  | [] => none

end NodeBootstrap
