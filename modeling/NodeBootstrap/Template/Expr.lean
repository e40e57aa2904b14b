import NodeBootstrap.Template.Token

/-!
# Expressions of a template

* `Expr`: an expression by its parts;
* `Expr.levels`: the operators of two values, from the loosest to the tightest;
* `Expr.read`, `Expr.readOperand`: the expression at the start of some tokens, with or without a
  choice between two values, and the tokens after it;
* `Expr.ofTokens`: some tokens as one expression.

A reader calls itself with one unit of fuel less. The tokens of a tag need at most `Expr.fuelFor`
units, since every level of operators is passed once for each token.
-/

namespace NodeBootstrap.Template

/-- An operator of two values. -/
inductive Operator where
  | or
  | and
  | equal
  | unequal
  | less
  | atMost
  | greater
  | atLeast
  | inside
  | outside
  | add
  | subtract
  | concat
  | multiply
  | divide
  | divideWhole
  | remainder
  | power
deriving DecidableEq, Repr, Inhabited

/-- An expression. -/
inductive Expr where
  | text (s : String)
  | whole (n : Nat)
  | real (x : Float)
  | flag (b : Bool)
  | nothing
  | absent
  | name (s : String)
  | list (xs : List Expr)
  | map (keys values : List Expr)
  | negative (a : Expr)
  | not (a : Expr)
  | binary (op : Operator) (a b : Expr)
  | choice (condition a b : Expr)
  | field (a : Expr) (name : String)
  | item (a index : Expr)
  | slice (a start stop step : Expr)
  | call (a : Expr) (arguments : List Expr)
  | named (name : String) (a : Expr)
  | filter (name : String) (a : Expr) (arguments : List Expr)
  | test (name : String) (a : Expr) (arguments : List Expr)
deriving Repr, Inhabited

namespace Expr

/-- The tokens after one particular sign. -/
def expect (s : String) : List Token → Option (List Token)
  | .sign t :: ts => if s = t then some ts else none
  | _ => none

/-! ## Operators -/

/-- A level of operators that bind equally tight: the prefixed negation, or operators between
values with the words and signs that write them. -/
inductive Level where
  | negation
  | binary (operators : List (List String × Operator))
deriving DecidableEq, Repr

/-- The levels from the loosest to the tightest. -/
def levels : List Level :=
  [.binary [(["or"], .or)], .binary [(["and"], .and)], .negation,
   .binary [(["=="], .equal), (["!="], .unequal), (["<="], .atMost), (["<"], .less),
     ([">="], .atLeast), ([">"], .greater), (["in"], .inside), (["not", "in"], .outside)],
   .binary [(["+"], .add), (["-"], .subtract)], .binary [(["~"], .concat)],
   .binary [(["*"], .multiply), (["/"], .divide), (["//"], .divideWhole), (["%"], .remainder)],
   .binary [(["**"], .power)]]

/-- Whether a token is written so. -/
def isWritten (s : String) : Token → Bool
  | .word t => s == t
  | .sign t => s == t
  | _ => false

/-- The tokens after tokens written in a given way. -/
def afterWritten : List String → List Token → Option (List Token)
  | [], ts => some ts
  | _ :: _, [] => none
  | s :: ss, t :: ts => if isWritten s t then afterWritten ss ts else none

/-- The operator at the start of some tokens, and the tokens after it. -/
def operator? : List (List String × Operator) → List Token → Option (Operator × List Token)
  | [], _ => none
  | (written, op) :: ops, ts =>
    match afterWritten written ts with
    | some rest => some (op, rest)
    | none => operator? ops ts

/-! ## Values -/

/-- The value that a word stands for. -/
def ofWord : String → Expr
  | "true" => flag true
  | "True" => flag true
  | "false" => flag false
  | "False" => flag false
  | "none" => nothing
  | "None" => nothing
  | s => name s

/-- Words that cannot be the argument of a test that is written without parentheses. -/
def argumentless : List String := ["and", "or", "else", "is", "if", "in", "not"]

/-- Whether some tokens begin with the argument of a test written without parentheses. -/
def isArgumentAhead : List Token → Bool
  | .word s :: _ => !argumentless.contains s
  | .sign s :: _ => ["+", "-", "[", "\x7b"].contains s
  | _ :: _ => true
  | [] => false

/-- The tokens after a comma, or those in front of the end of a list. -/
def afterComma (close : String) (ts : List Token) : Option (List Token) :=
  match expect "," ts with
  | some rest => some rest
  | none => (expect close ts).map fun _ => ts

mutual

/-- An expression in which a choice may stand. -/
def read : (fuel : Nat) → List Token → Option (Expr × List Token)
  | 0, _ => none
  | fuel + 1, ts => do
    let (a, rest) ← readOperand fuel levels ts
    readChoice fuel a rest

/-- The choices after a value: each takes what was read so far if a condition holds. -/
def readChoice : (fuel : Nat) → Expr → List Token → Option (Expr × List Token)
  | 0, _, _ => none
  | fuel + 1, a, .word "if" :: ts => do
    let (condition, rest) ← readOperand fuel levels ts
    match rest with
    | .word "else" :: rest => do
      let (b, rest) ← read fuel rest
      readChoice fuel (choice condition a b) rest
    | rest => readChoice fuel (choice condition a absent) rest
  | _ + 1, a, ts => some (a, ts)

/-- An expression of some levels of operators. -/
def readOperand : (fuel : Nat) → List Level → List Token → Option (Expr × List Token)
  | 0, _, _ => none
  | fuel + 1, [], ts => do
    let (a, rest) ← readUnary fuel ts
    let (a, rest) ← readPostfix fuel a rest
    readFilters fuel a rest
  | fuel + 1, .negation :: ls, .word "not" :: ts => do
    let (a, rest) ← readOperand fuel (.negation :: ls) ts
    return (not a, rest)
  | fuel + 1, .negation :: ls, ts => readOperand fuel ls ts
  | fuel + 1, .binary ops :: ls, ts => do
    let (a, rest) ← readOperand fuel ls ts
    readChain fuel ops ls a rest

/-- The operators of one level and their right-hand sides, after a first value. -/
def readChain : (fuel : Nat) → List (List String × Operator) → List Level → Expr → List Token →
    Option (Expr × List Token)
  | 0, _, _, _, _ => none
  | fuel + 1, ops, ls, a, ts =>
    match operator? ops ts with
    | none => some (a, ts)
    | some (op, rest) => do
      let (b, rest) ← readOperand fuel ls rest
      readChain fuel ops ls (binary op a b) rest

/-- A value with any number of signs in front. -/
def readUnary : (fuel : Nat) → List Token → Option (Expr × List Token)
  | 0, _ => none
  | fuel + 1, .sign "-" :: ts => do
    let (a, rest) ← readUnary fuel ts
    return (negative a, rest)
  | fuel + 1, ts => readPrimary fuel ts

/-- A name, a constant, or something in brackets. -/
def readPrimary : (fuel : Nat) → List Token → Option (Expr × List Token)
  | 0, _ => none
  | _ + 1, .word s :: ts => some (ofWord s, ts)
  | _ + 1, .text s :: ts => some (text s, ts)
  | _ + 1, .whole n :: ts => some (whole n, ts)
  | _ + 1, .real x :: ts => some (real x, ts)
  | fuel + 1, .sign "[" :: ts => do
    let (xs, rest) ← readItems fuel "]" ts
    return (list xs, rest)
  | fuel + 1, .sign "\x7b" :: ts => do
    let ((keys, values), rest) ← readEntries fuel ts
    return (map keys values, rest)
  | _ + 1, .sign "(" :: .sign ")" :: ts => some (list [], ts)
  | fuel + 1, .sign "(" :: ts => do
    let (a, rest) ← read fuel ts
    match expect "," rest with
    | some rest => do
      let (xs, rest) ← readItems fuel ")" rest
      return (list (a :: xs), rest)
    | none => do
      let rest ← expect ")" rest
      return (a, rest)
  | _ + 1, _ => none

/-- Expressions with commas between them, up to a closing bracket. -/
def readItems : (fuel : Nat) → String → List Token → Option (List Expr × List Token)
  | 0, _, _ => none
  | fuel + 1, close, ts =>
    match expect close ts with
    | some rest => some ([], rest)
    | none => do
      let (x, rest) ← read fuel ts
      let rest ← afterComma close rest
      let (xs, rest) ← readItems fuel close rest
      return (x :: xs, rest)

/-- Keys and values up to a closing brace. -/
def readEntries : (fuel : Nat) → List Token → Option ((List Expr × List Expr) × List Token)
  | 0, _ => none
  | fuel + 1, ts =>
    match expect "\x7d" ts with
    | some rest => some (([], []), rest)
    | none => do
      let (k, rest) ← read fuel ts
      let rest ← expect ":" rest
      let (v, rest) ← read fuel rest
      let rest ← afterComma "\x7d" rest
      let ((ks, vs), rest) ← readEntries fuel rest
      return ((k :: ks, v :: vs), rest)

/-- Fields, items and calls after a value. -/
def readPostfix : (fuel : Nat) → Expr → List Token → Option (Expr × List Token)
  | 0, _, _ => none
  | fuel + 1, a, .sign "." :: .word s :: ts => readPostfix fuel (field a s) ts
  | _ + 1, _, .sign "." :: _ => none
  | fuel + 1, a, .sign "[" :: ts => do
    let (b, rest) ← readSubscript fuel a ts
    readPostfix fuel b rest
  | fuel + 1, a, .sign "(" :: ts => do
    let (xs, rest) ← readArguments fuel ts
    readPostfix fuel (call a xs) rest
  | _ + 1, a, ts => some (a, ts)

/-- An item or a slice of a value, up to the closing bracket. -/
def readSubscript : (fuel : Nat) → Expr → List Token → Option (Expr × List Token)
  | 0, _, _ => none
  | fuel + 1, a, ts => do
    let (start, rest) ← readBound fuel ts
    match rest with
    | .sign ":" :: rest => do
      let (stop, rest) ← readBound fuel rest
      let (step, rest) ← match rest with
        | .sign ":" :: rest => readBound fuel rest
        | rest => some (nothing, rest)
      let rest ← expect "]" rest
      return (slice a start stop step, rest)
    | rest => do
      let rest ← expect "]" rest
      if ts.length = rest.length + 1 then none else return (item a start, rest)

/-- A bound of a slice; it may be left out. -/
def readBound : (fuel : Nat) → List Token → Option (Expr × List Token)
  | 0, _ => none
  | _ + 1, .sign ":" :: ts => some (nothing, .sign ":" :: ts)
  | _ + 1, .sign "]" :: ts => some (nothing, .sign "]" :: ts)
  | fuel + 1, ts => read fuel ts

/-- The arguments of a call up to the closing parenthesis. -/
def readArguments : (fuel : Nat) → List Token → Option (List Expr × List Token)
  | 0, _ => none
  | fuel + 1, ts =>
    match expect ")" ts with
    | some rest => some ([], rest)
    | none => do
      let (x, rest) ← match ts with
        | .word s :: .sign "=" :: rest => do
          let (x, rest) ← read fuel rest
          some (named s x, rest)
        | ts => read fuel ts
      let rest ← afterComma ")" rest
      let (xs, rest) ← readArguments fuel rest
      return (x :: xs, rest)

/-- The filters and tests after a value. -/
def readFilters : (fuel : Nat) → Expr → List Token → Option (Expr × List Token)
  | 0, _, _ => none
  | fuel + 1, a, .sign "|" :: .word s :: .sign "(" :: ts => do
    let (xs, rest) ← readArguments fuel ts
    readFilters fuel (filter s a xs) rest
  | fuel + 1, a, .sign "|" :: .word s :: ts => readFilters fuel (filter s a []) ts
  | _ + 1, _, .sign "|" :: _ => none
  | fuel + 1, a, .word "is" :: .word "not" :: ts => do
    let (b, rest) ← readTest fuel a ts
    readFilters fuel (not b) rest
  | fuel + 1, a, .word "is" :: ts => do
    let (b, rest) ← readTest fuel a ts
    readFilters fuel b rest
  | _ + 1, a, ts => some (a, ts)

/-- A test of a value by its name and arguments. -/
def readTest : (fuel : Nat) → Expr → List Token → Option (Expr × List Token)
  | 0, _, _ => none
  | fuel + 1, a, .word s :: .sign "(" :: ts => do
    let (xs, rest) ← readArguments fuel ts
    return (test s a xs, rest)
  | fuel + 1, a, .word s :: ts =>
    if isArgumentAhead ts then do
      let (x, rest) ← readUnary fuel ts
      let (x, rest) ← readPostfix fuel x rest
      return (test s a [x], rest)
    else some (test s a [], ts)
  | _ + 1, _, _ => none

end

/-! ## Whole tags -/

/-- Fuel enough to read some tokens: each of them is reached through all levels at most once. -/
def fuelFor (ts : List Token) : Nat := 16 * (ts.length + 2)

/-- Some tokens as one expression. -/
def ofTokens (ts : List Token) : Option Expr :=
  match read (fuelFor ts) ts with
  | some (a, []) => some a
  | _ => none

end Expr

end NodeBootstrap.Template
