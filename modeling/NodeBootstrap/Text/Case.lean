import NodeBootstrap.Text.CaseTable

/-!
# Letter case

* `Text.upper`, `Text.lower`: a text in capital or in small letters, by the rules of Unicode that
  hold in every language.
-/

namespace NodeBootstrap

namespace Chars

/-- The capital form of a character. -/
def upperOf (c : Char) : List Char :=
  match CaseTable.image? CaseTable.upperRuns c.toNat with
  | some n => [Char.ofNat n]
  | none =>
    match CaseTable.upperTexts.find? fun e => e.1 == c.toNat with
    | some e => e.2.map Char.ofNat
    | none => [c]

/-- The small form of a character. -/
def lowerOf (c : Char) : List Char :=
  if c = '\u0130' then ['i', '\u0307']
  else
    match CaseTable.image? CaseTable.lowerRuns c.toNat with
    | some n => [Char.ofNat n]
    | none => [c]

/-- Whether a character has another case. -/
def isCased (c : Char) : Bool := upperOf c != [c] || lowerOf c != [c]

/-- A text in capital letters. -/
def upper (cs : List Char) : List Char := cs.flatMap upperOf

/-- A text in small letters, after a letter or not; a sigma that ends a word has a form of its
own. -/
def lower : (inWord : Bool) → List Char → List Char
  | _, [] => []
  | inWord, c :: cs =>
    (if c = '\u03a3' && inWord && !(cs.head?.any isCased) then ['\u03c2'] else lowerOf c) ++
      lower (isCased c) cs

end Chars

namespace Text

/-- The text in capital letters. -/
def upper (s : String) : String := String.ofList (Chars.upper s.toList)

/-- The text in small letters. -/
def lower (s : String) : String := String.ofList (Chars.lower false s.toList)

end Text

end NodeBootstrap
