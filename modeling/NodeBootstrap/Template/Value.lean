import NodeBootstrap.Failure
import NodeBootstrap.Number.Double
import NodeBootstrap.Text.Hex

/-!
# Values of a template

* `Value`: what an expression stands for;
* `Value.show`: a value as it is printed;
* `Value.truth`, `Value.same`, `Value.order`, `Value.items`: a value tested, compared and iterated;
  a value that is not defined allows none of that.
-/

namespace NodeBootstrap.Template

/-- The value of an expression. A text may be marked as safe to print as it is; what is undefined
may be so on purpose, and then prints as nothing. -/
inductive Value where
  | undefined (onPurpose : Bool)
  | nothing
  | flag (b : Bool)
  | whole (n : Int)
  | real (x : Float)
  | text (s : String) (safe : Bool)
  | list (xs : List Value)
  | map (entries : List (Value × Value))
deriving Repr, Inhabited

/-- What an operation on values returns. -/
abbrev Attempt := Except TemplateFault

namespace Value

/-- A text that is not marked as safe. -/
def plain (s : String) : Value := text s false

/-- Whether a value is defined. -/
def isDefined : Value → Bool
  | undefined _ => false
  | _ => true

/-- A value that must be defined. -/
def defined (v : Value) : Attempt Value := if v.isDefined then .ok v else .error .undefinedName

/-! ## Numbers -/

/-- Whole numbers from `-2 ^ 127` up to, but without, `2 ^ 127`. -/
def isWholeInRange (n : Int) : Bool := -Int.pow 2 127 ≤ n && n < Int.pow 2 127

/-- A whole number, if it is in range. -/
def wholeChecked (n : Int) : Attempt Value :=
  if isWholeInRange n then .ok (whole n) else .error .unsupportedOperation

/-- A value as a whole number; flags count as zero and one. -/
def whole? : Value → Option Int
  | whole n => some n
  | flag b => some (if b then 1 else 0)
  | _ => none

/-- A value as a number of double precision. -/
def real? : Value → Option Float
  | real x => some x
  | v => v.whole?.map Float.ofInt

/-- A number of double precision without its sign, as a binary fraction. -/
def magnitude (x : Float) : Double :=
  let bits := x.toBits.toNat
  let exponent : Nat := bits / Nat.pow 2 52 % Nat.pow 2 11
  let fraction := bits % Nat.pow 2 52
  if exponent = 0 then ⟨fraction, -1074⟩ else ⟨Nat.pow 2 52 + fraction, exponent - 1075⟩

/-- A number of double precision in decimal. -/
def realText (x : Float) : String :=
  let minus := if Nat.pow 2 63 ≤ x.toBits.toNat then "-" else ""
  if x.isNaN then "NaN"
  else if x.isInf then minus ++ "inf"
  else minus ++ (magnitude x).render

/-- A whole number in decimal. -/
def wholeText (n : Int) : String :=
  if n < 0 then "-" ++ Decimal.render n.natAbs else Decimal.render n.toNat

/-! ## Printing -/

/-- A character inside a quoted text. -/
def quotedChar (quote c : Char) : List Char :=
  if c = quote ∨ c = '\\' then ['\\', c]
  else if c = '\n' then ['\\', 'n']
  else if c = '\r' then ['\\', 'r']
  else if c = '\t' then ['\\', 't']
  else if c < ' ' ∨ c = '\x7f' then
    ['\\', 'x', Hex.digit (c.toNat / 16), Hex.digit (c.toNat % 16)]
  else [c]

/-- A text in quotes, which are double if only then nothing needs an escape. -/
def quotedText (s : String) : String :=
  let cs := s.toList
  let quote := if cs.contains '\'' && !cs.contains '"' then '"' else '\''
  String.ofList (quote :: cs.flatMap (quotedChar quote) ++ [quote])

mutual

/-- A value inside a list or a map. -/
def showInside : Value → String
  | undefined _ => "undefined"
  | nothing => "None"
  | flag b => if b then "True" else "False"
  | whole n => wholeText n
  | real x => realText x
  | text s _ => quotedText s
  | list xs => "[" ++ Text.glue ", " (showItems xs) ++ "]"
  | map es => "\x7b" ++ Text.glue ", " (showEntries es) ++ "\x7d"
termination_by structural v => v

/-- The items of a list. -/
def showItems : List Value → List String
  | [] => []
  | x :: xs => showInside x :: showItems xs
termination_by structural xs => xs

/-- A key and its value. -/
def showEntry : Value × Value → String
  | (k, v) => showInside k ++ ": " ++ showInside v
termination_by structural e => e

/-- The entries of a map. -/
def showEntries : List (Value × Value) → List String
  | [] => []
  | e :: es => showEntry e :: showEntries es
termination_by structural es => es

end

/-- A value as it is printed. -/
def «show» : Value → String
  | undefined _ => ""
  | text s _ => s
  | v => showInside v

/-! ## Comparison -/

/-- The rank of a kind of values among the kinds. -/
def rank : Value → Nat
  | undefined _ => 0
  | nothing => 1
  | flag _ => 2
  | whole _ => 3
  | real _ => 3
  | text .. => 4
  | list _ => 5
  | map _ => 6

/-- The order of two numbers of double precision. -/
def orderReal (x y : Float) : Ordering := if x < y then .lt else if x == y then .eq else .gt

/-- The order of two values that are not lists or maps; a whole number is compared with another
kind of number as that kind. -/
def orderSimple (a b : Value) : Ordering :=
  match a, b with
  | text s _, text t _ => compare s t
  | _, _ =>
    match a.whole?, b.whole? with
    | some m, some n => compare m n
    | _, _ =>
      match a.real?, b.real? with
      | some x, some y => orderReal x y
      | _, _ => compare a.rank b.rank

mutual

/-- The order of two values; lists are compared item by item. -/
def order : Value → Value → Ordering
  | list xs, list ys => orderItems xs ys
  | map es, map fs => orderEntries es fs
  | a, b => orderSimple a b
termination_by structural v => v

/-- The order of two rows of items. -/
def orderItems : List Value → List Value → Ordering
  | [], [] => .eq
  | [], _ => .lt
  | _, [] => .gt
  | x :: xs, y :: ys => (order x y).then (orderItems xs ys)
termination_by structural xs => xs

/-- The order of two entries, by the key first. -/
def orderEntry : Value × Value → Value × Value → Ordering
  | (k, v), (l, w) => (order k l).then (order v w)
termination_by structural e => e

/-- The order of two rows of entries. -/
def orderEntries : List (Value × Value) → List (Value × Value) → Ordering
  | [], [] => .eq
  | [], _ => .lt
  | _, [] => .gt
  | e :: es, f :: fs => (orderEntry e f).then (orderEntries es fs)
termination_by structural es => es

end

/-- Whether two values are equal. -/
def same (a b : Value) : Bool := order a b == .eq

/-! ## Tests and items -/

/-- Whether a value counts as true. -/
def truth : Value → Attempt Bool
  | undefined onPurpose => if onPurpose then .ok false else .error .undefinedName
  | nothing => .ok false
  | flag b => .ok b
  | whole n => .ok (n ≠ 0)
  | real x => .ok (x != 0.0)
  | text s _ => .ok (s ≠ "")
  | list xs => .ok !xs.isEmpty
  | map es => .ok !es.isEmpty

/-- The items of a value: those of a list, the keys of a map, the characters of a text. -/
def items : Value → Attempt (List Value)
  | list xs => .ok xs
  | map es => .ok (es.map (·.1))
  | text s _ => .ok (s.toList.map fun c => plain (String.singleton c))
  | nothing => .ok []
  | undefined onPurpose => if onPurpose then .ok [] else .error .undefinedName
  | _ => .error .unsupportedOperation

/-- The number of items. -/
def length (v : Value) : Attempt Nat :=
  match v with
  | nothing => .error .unsupportedOperation
  | undefined _ => .error .undefinedName
  | v => v.items.map List.length

/-- The value of a key among entries. -/
def lookup (key : Value) : List (Value × Value) → Option Value
  | [] => none
  | (k, v) :: es => if same k key then some v else lookup key es

/-- Entries in the order of their keys, with another one, in place of one with the same key. -/
def insert (key value : Value) : List (Value × Value) → List (Value × Value)
  | [] => [(key, value)]
  | (k, v) :: es =>
    match order key k with
    | .lt => (key, value) :: (k, v) :: es
    | .eq => (k, value) :: es
    | .gt => (k, v) :: insert key value es

/-- Whether a value contains another. -/
def contains (container v : Value) : Attempt Bool :=
  match container with
  | undefined _ => .error .undefinedName
  | text s _ => .ok (Text.occurs v.show s)
  | list xs => .ok (xs.any fun x => same x v)
  | map es => .ok (lookup v es).isSome
  | _ => .error .unsupportedOperation

/-- The place that an index counts from the start, or from the end if it is negative. -/
def position (index : Int) (length : Nat) : Option Nat :=
  let n := if index < 0 then index + length else index
  if n < 0 then none else some n.toNat

/-- The value under a key or at an index; a missing one is undefined. -/
def item (v index : Value) : Attempt Value :=
  let absent := undefined false
  match v with
  | undefined _ => .error .undefinedName
  | map es => .ok ((lookup index es).getD absent)
  | list xs =>
    match index with
    | whole n => .ok (((position n xs.length).bind fun k => xs[k]?).getD absent)
    | _ => .ok absent
  | text s _ =>
    match index with
    | whole n =>
      let c? := (position n s.length).bind fun k => s.toList[k]?
      .ok ((c?.map fun c => plain (String.singleton c)).getD absent)
    | _ => .ok absent
  | _ => .ok absent

/-! ## Slices -/

/-- A bound of a slice, moved into the range of the items. -/
def clamp (low high n : Int) (length : Nat) : Int :=
  let n := if n < 0 then n + length else n
  if n < low then low else if high < n then high else n

/-- Every `step`-th of the items, the next one after `skip` more. -/
def every (step : Nat) : (skip : Nat) → List α → List α
  | _, [] => []
  | 0, x :: xs => x :: every step (step - 1) xs
  | skip + 1, _ :: xs => every step skip xs

/-- The items from one bound to the other, every `step`-th of them, backwards if the step is
negative. -/
def slice (start stop : Option Int) (step : Int) (xs : List α) : List α :=
  let n : Int := xs.length
  if 0 < step then
    let a := (start.map fun k => clamp 0 n k xs.length).getD 0
    let b := (stop.map fun k => clamp 0 n k xs.length).getD n
    every step.toNat 0 ((xs.take b.toNat).drop a.toNat)
  else
    let a := (start.map fun k => clamp (-1) (n - 1) k xs.length).getD (n - 1)
    let b := (stop.map fun k => clamp (-1) (n - 1) k xs.length).getD (-1)
    every step.natAbs 0 (((xs.take (a + 1).toNat).drop (b + 1).toNat).reverse)

/-- A bound of a slice, which may be left out. -/
def bound? : Value → Attempt (Option Int)
  | nothing => .ok none
  | whole n => .ok (some n)
  | undefined _ => .error .undefinedName
  | _ => .error .unsupportedOperation

/-- A slice of a text or a list. -/
def sliced (v start stop step : Value) : Attempt Value := do
  let start ← bound? start
  let stop ← bound? stop
  let step := (← bound? step).getD 1
  if step = 0 then throw .unsupportedOperation
  match v with
  | undefined _ => throw .undefinedName
  | nothing => return list []
  | text s _ => return plain (String.ofList (slice start stop step s.toList))
  | list xs => return list (slice start stop step xs)
  | _ => throw .unsupportedOperation

end Value

end NodeBootstrap.Template
