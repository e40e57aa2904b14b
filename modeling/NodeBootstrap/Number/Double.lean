import NodeBootstrap.Text.Decimal

/-!
# Numbers of double precision

* `Double`: a number of at most 53 binary digits times a power of two, without a sign;
* `Double.ofRatio`: the nearest such number to a quotient, a tie going to the even neighbour;
* `Double.shortest`: the fewest decimal digits that still denote the number;
* `Double.render`: the number in decimal, with at least one digit on either side of the point.
-/

namespace NodeBootstrap

/-- The number `mantissa * 2 ^ exponent`. -/
structure Double where
  mantissa : Nat
  exponent : Int
deriving DecidableEq, Repr

namespace Double

/-- The quotient rounded to a whole number, a tie going to the even neighbour. -/
def roundTiesToEven (num den : Nat) : Nat :=
  let q := num / den
  let r := num % den
  if 2 * r < den then q
  else if den < 2 * r then q + 1
  else q + q % 2

/-- Numerator and denominator of a quotient divided by `2 ^ e`. -/
def shifted (num den : Nat) (e : Int) : Nat × Nat :=
  if 0 ≤ e then (num, den * Nat.pow 2 e.toNat) else (num * Nat.pow 2 (-e).toNat, den)

/-- The number of 53 binary digits nearest to `num / den`. -/
def ofRatio (num den : Nat) : Double :=
  if num = 0 then ⟨0, 0⟩
  else
    let e : Int := (Nat.log2 num : Int) - Nat.log2 den - 52
    let s := shifted num den e
    let e := if s.1 < Nat.pow 2 52 * s.2 then e - 1 else e
    let s := shifted num den e
    ⟨roundTiesToEven s.1 s.2, e⟩

/-- Numerator and denominator of the number. -/
def ratio (x : Double) : Nat × Nat := shifted x.mantissa 1 (-x.exponent)

/-- The product, rounded. -/
def mul (x y : Double) : Double :=
  ofRatio (x.ratio.1 * y.ratio.1) (x.ratio.2 * y.ratio.2)

/-- The nearest whole number, a half going up. -/
def round (x : Double) : Nat := (2 * x.ratio.1 + x.ratio.2) / (2 * x.ratio.2)

/-! ## Decimal digits -/

/-- Whether two numbers are the same. -/
def same (x y : Double) : Bool := x.ratio.1 * y.ratio.2 == y.ratio.1 * x.ratio.2

/-- The number `digits * 10 ^ exponent`. -/
def ofDecimal (digits : Nat) (exponent : Int) : Double :=
  if 0 ≤ exponent then ofRatio (digits * Nat.pow 10 exponent.toNat) 1
  else ofRatio digits (Nat.pow 10 (-exponent).toNat)

/-- The multiple of `10 ^ exponent` next to the number, from below or from above, whichever is
nearer. -/
def nearest (x : Double) (exponent : Int) : Nat :=
  let s := if 0 ≤ exponent then (x.ratio.1, x.ratio.2 * Nat.pow 10 exponent.toNat)
    else (x.ratio.1 * Nat.pow 10 (-exponent).toNat, x.ratio.2)
  roundTiesToEven s.1 s.2

/-- Decimal digits and an exponent that denote the number, the first of those with exponents from
`exponent` downwards. -/
def search (x : Double) : (fuel : Nat) → (exponent : Int) → Nat × Int
  | 0, exponent => (nearest x exponent, exponent)
  | fuel + 1, exponent =>
    if (ofDecimal (nearest x exponent) exponent).same x then (nearest x exponent, exponent)
    else search x fuel (exponent - 1)

/-- The fewest decimal digits that denote the number, and their exponent. -/
def shortest (x : Double) : Nat × Int :=
  let whole := x.ratio.1 / x.ratio.2
  search x 700 (Decimal.digits whole).length

/-- The number in decimal, with at least one digit on either side of the point. -/
def render (x : Double) : String :=
  if x.mantissa = 0 then "0.0"
  else
    let (digits, exponent) := shortest x
    if 0 ≤ exponent then
      String.ofList (Decimal.digits (digits * Nat.pow 10 exponent.toNat) ++ ['.', '0'])
    else
      let places := (-exponent).toNat
      let ds := Decimal.digits digits
      let padded := List.replicate (places + 1 - ds.length) '0' ++ ds
      String.ofList (padded.take (padded.length - places) ++ '.' ::
        padded.drop (padded.length - places))

end Double

end NodeBootstrap
