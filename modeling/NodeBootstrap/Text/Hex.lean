/-!
# Hexadecimal digits

* `Hex.digit`, `Hex.digits`: a number in lower case without leading zeros;
* `Hex.upperDigits`: the last digits of a number, in upper case;
* `Hex.value?`, `Hex.read?`: the number that a digit, or a row of digits, denotes.
-/

namespace NodeBootstrap.Hex

/-- The digit of a number below sixteen, in lower case. -/
def digit (n : Nat) : Char :=
  if n < 10 then Char.ofNat ('0'.toNat + n) else Char.ofNat ('a'.toNat + (n - 10))

/-- The digits of a number in lower case, without leading zeros. -/
def digits (n : Nat) : List Char :=
  if n < 16 then [digit n] else digits (n / 16) ++ [digit (n % 16)]

/-- The digit of a number below sixteen, in upper case. -/
def upperDigit (n : Nat) : Char :=
  if n < 10 then Char.ofNat ('0'.toNat + n) else Char.ofNat ('A'.toNat + (n - 10))

/-- The last `width` digits of a number, in upper case. -/
def upperDigits : (width : Nat) → Nat → List Char
  | 0, _ => []
  | width + 1, n => upperDigits width (n / 16) ++ [upperDigit (n % 16)]

/-- The number that a digit denotes. -/
def value? (c : Char) : Option Nat :=
  if '0' ≤ c ∧ c ≤ '9' then some (c.toNat - '0'.toNat)
  else if 'a' ≤ c ∧ c ≤ 'f' then some (c.toNat - 'a'.toNat + 10)
  else if 'A' ≤ c ∧ c ≤ 'F' then some (c.toNat - 'A'.toNat + 10)
  else none

/-- The number that digits denote after the digits of `start`. -/
def readFrom? (start : Nat) : List Char → Option Nat
  | [] => some start
  | c :: cs => do
    let d ← value? c
    readFrom? (start * 16 + d) cs

/-- The number that a row of digits denotes. -/
def read? (cs : List Char) : Option Nat := readFrom? 0 cs

/-- The character whose number the first `width` digits of a text give, and the text after them. -/
def readChar? (width : Nat) (cs : List Char) : Option (Char × List Char) := do
  if cs.length < width then none
  let n ← read? (cs.take width)
  if n.isValidChar then return (Char.ofNat n, cs.drop width) else none

end NodeBootstrap.Hex
