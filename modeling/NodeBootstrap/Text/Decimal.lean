/-!
# Whole numbers in decimal

* `Decimal.digits`, `Decimal.render`: a number as decimal digits without leading zeros;
* `Decimal.value`: the number that a list of digits denotes;
* `Decimal.read?`: a number below a bound, with an optional plus sign and any leading zeros.
-/

namespace NodeBootstrap.Decimal

/-- An ASCII decimal digit. -/
def isDigit (c : Char) : Bool := '0' ≤ c && c ≤ '9'

/-- The number that one digit denotes. -/
def digitValue (c : Char) : Nat := c.toNat - '0'.toNat

/-- The digit of a number below ten. -/
def digitChar (n : Nat) : Char := Char.ofNat ('0'.toNat + n)

/-- The decimal digits of a number, the most significant first and no leading zero. -/
def digits (n : Nat) : List Char :=
  if n < 10 then [digitChar n] else digits (n / 10) ++ [digitChar (n % 10)]

/-- The number written in decimal. -/
def render (n : Nat) : String := String.ofList (digits n)

/-- The number that a list of digits denotes after the digits of `start`. -/
def valueFrom (start : Nat) (cs : List Char) : Nat :=
  cs.foldl (fun n c => n * 10 + digitValue c) start

/-- The number that a list of digits denotes. -/
def value (cs : List Char) : Nat := valueFrom 0 cs

/-- Reads a number below `bound`: an optional plus sign and at least one digit, nothing else. -/
def read? (bound : Nat) (cs : List Char) : Option Nat :=
  let ds := match cs with
    | '+' :: r => r
    | _ => cs
  if ds ≠ [] ∧ ds.all isDigit then
    if value ds < bound then some (value ds) else none
  else none

end NodeBootstrap.Decimal
