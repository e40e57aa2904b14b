import NodeBootstrap.Text.Decimal

/-!
# Numbers with a point

A number in decimal has digits before or after a point and may have an exponent.

* `Fraction.parts?`: the digits and the exponent of a number without a sign;
* `Fraction.isFinite`: whether double precision can hold a number;
* `Fraction.isNumber`: a number with an optional sign that double precision can hold.
-/

namespace NodeBootstrap.Fraction

/-- The value of an exponent written after `e`: its sign and digits; no exponent counts as 0. -/
def exponent? : List Char → Option Int
  | [] => some 0
  | c :: cs =>
    if c = 'e' ∨ c = 'E' then
      let (negative, ds) := match cs with
        | '-' :: r => (true, r)
        | '+' :: r => (false, r)
        | r => (false, r)
      if ds ≠ [] ∧ ds.all Decimal.isDigit then
        some (if negative then -(Decimal.value ds : Int) else Decimal.value ds)
      else none
    else none

/-- The digits before and after the point, and the exponent, of a number without a sign. -/
def parts? (cs : List Char) : Option (List Char × List Char × Int) :=
  let whole := cs.takeWhile Decimal.isDigit
  let rest := cs.dropWhile Decimal.isDigit
  let (fraction, rest) := match rest with
    | '.' :: r => (r.takeWhile Decimal.isDigit, r.dropWhile Decimal.isDigit)
    | r => ([], r)
  if whole = [] ∧ fraction = [] then none
  else (exponent? rest).map fun e => (whole, fraction, e)

/-- Whether digits times a power of ten stay below the half-way point after the largest number of
double precision. -/
def isFinite (ds : List Char) (e : Int) : Bool :=
  let significant := ds.dropWhile (· == '0')
  let magnitude : Int := significant.length + e
  if significant.isEmpty || magnitude < 300 then true
  else if 400 < magnitude then false
  else
    let limit := Nat.pow 2 1024 - Nat.pow 2 970
    if 0 ≤ e then Decimal.value significant * Nat.pow 10 e.toNat < limit
    else Decimal.value significant < limit * Nat.pow 10 (-e).toNat

/-- A number without a sign that double precision can hold. -/
def isUnsigned (cs : List Char) : Bool :=
  match parts? cs with
  | some (whole, fraction, e) => isFinite (whole ++ fraction) (e - fraction.length)
  | none => false

/-- A number with an optional sign that double precision can hold. -/
def isNumber : List Char → Bool
  | '+' :: cs => isUnsigned cs
  | '-' :: cs => isUnsigned cs
  | cs => isUnsigned cs

end NodeBootstrap.Fraction
