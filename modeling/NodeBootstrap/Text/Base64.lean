import NodeBootstrap.Text.Decimal

/-!
# Base64

* `Base64.value?`: the number that a sign stands for;
* `Base64.isEncoded`: a text in groups of four signs whose last group may be filled up, and whose
  unused bits are zero.
-/

namespace NodeBootstrap.Base64

/-- The number below 64 that a sign stands for. -/
def value? (c : Char) : Option Nat :=
  if 'A' ≤ c ∧ c ≤ 'Z' then some (c.toNat - 'A'.toNat)
  else if 'a' ≤ c ∧ c ≤ 'z' then some (c.toNat - 'a'.toNat + 26)
  else if Decimal.isDigit c then some (Decimal.digitValue c + 52)
  else if c = '+' then some 62
  else if c = '/' then some 63
  else none

/-- A sign whose number is a multiple of `n`. -/
def isMultiple (n : Nat) (c : Char) : Bool := (value? c).any fun v => v % n == 0

/-- A text of whole groups. -/
def isEncoded : List Char → Bool
  | [] => true
  | [a, b, '=', '='] => isMultiple 1 a && isMultiple 16 b
  | [a, b, c, '='] => isMultiple 1 a && isMultiple 1 b && isMultiple 4 c
  | a :: b :: c :: d :: cs =>
    isMultiple 1 a && isMultiple 1 b && isMultiple 1 c && isMultiple 1 d && isEncoded cs
  | _ => false

end NodeBootstrap.Base64
