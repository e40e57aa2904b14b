import NodeBootstrap.Template.Expr
import NodeBootstrap.Template.Value

/-!
# Operators of a template

* `Value.apply`: the value of an operator and its two operands, other than the two that look at
  their second operand only if they must.
-/

namespace NodeBootstrap.Template.Value

/-! ## Numbers of double precision -/

/-- A signed whole number times a power of two. -/
structure Binary where
  whole : Int
  exponent : Int

/-- A finite number as a binary fraction. -/
def binary (x : Float) : Binary :=
  let m := magnitude x
  ⟨if x < 0.0 then -m.mantissa else m.mantissa, m.exponent⟩

/-- The number that a binary fraction denotes. -/
def ofBinary (b : Binary) : Float :=
  let size := b.whole.natAbs
  let surplus := size.log2 - 60
  let x := (Float.ofNat (size / Nat.pow 2 surplus)).scaleB (b.exponent + surplus)
  if b.whole < 0 then -x else x

/-- The remainder that is not negative. -/
def remainderReal (x y : Float) : Float :=
  if x.isNaN || y.isNaN || x.isInf || y == 0.0 then 0.0 / 0.0
  else if y.isInf then (if x < 0.0 then y.abs else x)
  else
    let a := binary x
    let b := binary y
    let e := min a.exponent b.exponent
    let scaled := fun (c : Binary) => c.whole * Nat.pow 2 (c.exponent - e).toNat
    ofBinary ⟨scaled a % scaled b, e⟩

/-- The whole quotient that leaves a remainder that is not negative. -/
def quotientReal (x y : Float) : Float :=
  let q := (x - remainderReal x y) / y
  if q < 0.0 then q.ceil else q.floor

/-! ## Operators -/

/-- An operator on two numbers: as whole numbers if both are, else in double precision. -/
def numeric (a b : Value) (onWhole : Int → Int → Attempt Value) (onReal : Float → Float → Float) :
    Attempt Value :=
  match a.whole?, b.whole? with
  | some m, some n => onWhole m n
  | _, _ =>
    match a.real?, b.real? with
    | some x, some y => .ok (real (onReal x y))
    | _, _ => .error .unsupportedOperation

/-- The sum of two numbers, or one text or list after another. -/
def add (a b : Value) : Attempt Value :=
  match a, b with
  | text s _, text t _ => .ok (plain (s ++ t))
  | list xs, list ys => .ok (list (xs ++ ys))
  | _, _ => numeric a b (fun m n => wholeChecked (m + n)) (· + ·)

/-- The most characters or items that a repetition may have. -/
def repetitionLimit : Nat := 10000000

/-- A number of repetitions. -/
def times (v : Value) (length : Nat) : Attempt Nat :=
  match v with
  | whole n =>
    if 0 ≤ n ∧ n.toNat * length ≤ repetitionLimit then .ok n.toNat
    else .error .unsupportedOperation
  | _ => .error .unsupportedOperation

/-- A text so many times. -/
def repeated (s : String) (v : Value) : Attempt Value := do
  let n ← times v s.length
  return plain (String.ofList (List.replicate n s.toList).flatten)

/-- The product of two numbers, or a text or list as often as a number says. -/
def multiply (a b : Value) : Attempt Value :=
  match a, b with
  | text s _, v => repeated s v
  | v, text s _ => repeated s v
  | list xs, v => return list (List.replicate (← times v xs.length) xs).flatten
  | v, list xs => return list (List.replicate (← times v xs.length) xs).flatten
  | _, _ => numeric a b (fun m n => wholeChecked (m * n)) (· * ·)

/-- The quotient in double precision. -/
def divide (a b : Value) : Attempt Value :=
  match a.real?, b.real? with
  | some x, some y => .ok (real (x / y))
  | _, _ => .error .unsupportedOperation

/-- The whole quotient that leaves a remainder that is not negative. -/
def divideWhole (a b : Value) : Attempt Value :=
  numeric a b
    (fun m n => if n = 0 then .error .unsupportedOperation else wholeChecked (m / n)) quotientReal

/-- The remainder that is not negative. -/
def remainder (a b : Value) : Attempt Value :=
  numeric a b
    (fun m n => if n = 0 then .error .unsupportedOperation else wholeChecked (m % n))
    remainderReal

/-- The largest exponent of a power of whole numbers other than -1, 0 and 1. -/
def exponentLimit : Nat := 127

/-- A power of whole numbers. -/
def powerWhole (m n : Int) : Attempt Value :=
  if n < 0 then .error .unsupportedOperation
  else if m.natAbs ≤ 1 then wholeChecked (Int.pow m (if n = 0 then 0 else 2 - n.toNat % 2))
  else if n.toNat ≤ exponentLimit then wholeChecked (Int.pow m n.toNat)
  else .error .unsupportedOperation

/-- The opposite number. -/
def negate (v : Value) : Attempt Value :=
  match v with
  | whole n => wholeChecked (-n)
  | real x => .ok (real (-x))
  | _ => .error .unsupportedOperation

/-- The value of an operator and its operands, both of which must be defined. -/
def apply (op : Operator) (a b : Value) : Attempt Value := do
  let a ← a.defined
  let b ← b.defined
  match op with
  | .equal => return flag (same a b)
  | .unequal => return flag !(same a b)
  | .less => return flag (order a b == .lt)
  | .atMost => return flag (order a b != .gt)
  | .greater => return flag (order a b == .gt)
  | .atLeast => return flag (order a b != .lt)
  | .inside => return flag (← b.contains a)
  | .outside => return flag !(← b.contains a)
  | .add => a.add b
  | .subtract => numeric a b (fun m n => wholeChecked (m - n)) (· - ·)
  | .concat => return plain (a.show ++ b.show)
  | .multiply => a.multiply b
  | .divide => a.divide b
  | .divideWhole => a.divideWhole b
  | .remainder => a.remainder b
  | .power => numeric a b powerWhole Float.pow
  | .or => return if ← a.truth then a else b
  | .and => return if ← a.truth then b else a

end NodeBootstrap.Template.Value
