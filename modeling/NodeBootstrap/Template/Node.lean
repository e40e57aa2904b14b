import NodeBootstrap.Template.Expr
import NodeBootstrap.Template.Piece

/-!
# Statements of a template

* `Target`: the names that a value is bound to;
* `Node`: text, a printed value, or a statement with the statements inside it;
* `Node.readAll`: the statements up to a tag that ends the block they stand in;
* `Node.ofPieces`: some pieces as the statements of a template.
-/

namespace NodeBootstrap.Template

/-- The names that a value, or its items in order, are bound to. -/
inductive Target where
  | name (s : String)
  | items (ts : List Target)
deriving Repr, Inhabited

/-- A statement. -/
inductive Node where
  | literal (s : List Char)
  | output (e : Expr)
  | choose (condition : Expr) (yes no : List Node)
  | each (target : Target) (source : Expr) (filter : Option Expr) (body otherwise : List Node)
  | assign (target : Target) (e : Expr)
  | capture (name : String) (body : List Node)
  | scope (bindings : List (Target × Expr)) (body : List Node)
  | elsewhere
deriving Repr, Inhabited

namespace Target

/-- Names that cannot be bound. -/
def reserved : List String := ["true", "True", "false", "False", "none", "None", "loop", "self"]

mutual

/-- A single target, and the tokens after it. -/
def read : (fuel : Nat) → List Token → Option (Target × List Token)
  | 0, _ => none
  | _ + 1, .word s :: ts => if reserved.contains s then none else some (name s, ts)
  | fuel + 1, .sign "(" :: ts => do
    let (t, rest) ← readRow fuel ts
    let rest ← Expr.expect ")" rest
    return (t, rest)
  | _ + 1, _ => none

/-- Targets with commas between them, and the tokens after them. -/
def readRow : (fuel : Nat) → List Token → Option (Target × List Token)
  | 0, _ => none
  | fuel + 1, ts => do
    let (t, rest) ← read fuel ts
    match rest with
    | .sign "," :: rest =>
      match readRow fuel rest with
      | some (items us, rest) => return (items (t :: us), rest)
      | some (u, rest) => return (items [t, u], rest)
      | none => return (items [t], rest)
    | rest => return (t, rest)

end

end Target

namespace Node

/-! ## Tags -/

/-- A place where a value is tested and bound: the target, the source and the filter of a loop. -/
def readLoop (ts : List Token) : Option (Target × Expr × Option Expr) := do
  let (target, rest) ← Target.readRow (2 * ts.length + 2) ts
  match rest with
  | .word "in" :: rest => do
    let (source, rest) ← Expr.readOperand (Expr.fuelFor rest) Expr.levels rest
    match rest with
    | [] => return (target, source, none)
    | .word "if" :: rest => return (target, source, some (← Expr.ofTokens rest))
    | _ => none
  | _ => none

/-- A target and the value bound to it. -/
def readBinding (ts : List Token) : Option (Target × Expr × List Token) := do
  let (target, rest) ← Target.readRow (2 * ts.length + 2) ts
  let rest ← Expr.expect "=" rest
  let (e, rest) ← Expr.read (Expr.fuelFor rest) rest
  return (target, e, rest)

/-- Bindings with commas between them. -/
def readBindings : (fuel : Nat) → List Token → Option (List (Target × Expr))
  | 0, _ => none
  | _ + 1, [] => some []
  | fuel + 1, ts => do
    let (target, rest) ← Target.read (2 * ts.length + 2) ts
    let rest ← Expr.expect "=" rest
    let (e, rest) ← Expr.read (Expr.fuelFor rest) rest
    match rest with
    | [] => return [(target, e)]
    | rest => do
      let rest ← Expr.expect "," rest
      return (target, e) :: (← readBindings fuel rest)

/-- The word that a tag begins with. -/
def wordOf : List Token → Option String
  | .word s :: _ => some s
  | _ => none

/-- The pieces after a tag of one given word. -/
def after (word : String) : List Piece → Option (List Piece)
  | .tag [.word s] :: ps => if s = word then some ps else none
  | _ => none

/-- The pieces after the tag that ends a block, which may repeat the block's name. -/
def afterBlock (name : String) : List Piece → Option (List Piece)
  | .tag [.word "endblock"] :: ps => some ps
  | .tag [.word "endblock", .word s] :: ps => if s = name then some ps else none
  | _ => none

mutual

/-- The statements up to a tag that begins with one of some words, or up to the end, and the pieces
from there on. -/
def readAll : (fuel : Nat) → (stops : List String) → List Piece → Option (List Node × List Piece)
  | 0, _, _ => none
  | _ + 1, _, [] => some ([], [])
  | fuel + 1, stops, .literal s :: ps => do
    let (ns, rest) ← readAll fuel stops ps
    return (literal s :: ns, rest)
  | fuel + 1, stops, .output ts :: ps => do
    let e ← Expr.ofTokens ts
    let (ns, rest) ← readAll fuel stops ps
    return (output e :: ns, rest)
  | fuel + 1, stops, .tag ts :: ps =>
    if (wordOf ts).any stops.contains then some ([], .tag ts :: ps)
    else do
      let (n, rest) ← readTag fuel ts ps
      let (ns, rest) ← readAll fuel stops rest
      return (n ++ ns, rest)

/-- The statement that a tag begins, and the pieces after it. -/
def readTag : (fuel : Nat) → List Token → List Piece → Option (List Node × List Piece)
  | 0, _, _ => none
  | fuel + 1, .word "if" :: ts, ps => do
    let (n, rest) ← readChoice fuel ts ps
    return ([n], rest)
  | fuel + 1, .word "for" :: ts, ps => do
    let (target, source, filter) ← readLoop ts
    let (body, rest) ← readAll fuel ["else", "endfor"] ps
    match after "else" rest with
    | some rest => do
      let (otherwise, rest) ← readAll fuel ["endfor"] rest
      return ([each target source filter body otherwise], ← after "endfor" rest)
    | none => return ([each target source filter body []], ← after "endfor" rest)
  | fuel + 1, [.word "set", .word s], ps =>
    if Target.reserved.contains s then none
    else do
      let (body, rest) ← readAll fuel ["endset"] ps
      return ([capture s body], ← after "endset" rest)
  | _ + 1, .word "set" :: ts, ps => do
    let (target, e, rest) ← readBinding ts
    if rest.isEmpty then return ([assign target e], ps) else none
  | fuel + 1, .word "with" :: ts, ps => do
    let bindings ← readBindings (ts.length + 1) ts
    let (body, rest) ← readAll fuel ["endwith"] ps
    return ([scope bindings body], ← after "endwith" rest)
  | fuel + 1, [.word "block", .word s], ps => do
    let (body, rest) ← readAll fuel ["endblock"] ps
    return ([scope [] body], ← afterBlock s rest)
  | _ + 1, .word "include" :: ts, ps => do
    let _ ← Expr.ofTokens ts
    return ([elsewhere], ps)
  | _ + 1, .word "extends" :: ts, ps => do
    let _ ← Expr.ofTokens ts
    return ([elsewhere], ps)
  | _ + 1, _, _ => none

/-- What follows the word that begins a choice: a condition, the statements for it, and those for
the other case. -/
def readChoice : (fuel : Nat) → List Token → List Piece → Option (Node × List Piece)
  | 0, _, _ => none
  | fuel + 1, ts, ps => do
    let condition ← Expr.ofTokens ts
    let (yes, rest) ← readAll fuel ["elif", "else", "endif"] ps
    match rest with
    | .tag (.word "elif" :: ts) :: rest => do
      let (n, rest) ← readChoice fuel ts rest
      return (choose condition yes [n], rest)
    | rest =>
      match after "else" rest with
      | some rest => do
        let (no, rest) ← readAll fuel ["endif"] rest
        return (choose condition yes no, ← after "endif" rest)
      | none => return (choose condition yes [], ← after "endif" rest)

end

/-! ## Templates -/

/-- Fuel enough to read some pieces: a block takes three units more than the pieces in it. -/
def fuelFor (ps : List Piece) : Nat := 3 * (ps.length + 1)

/-- Some pieces as the statements of a template. -/
def ofPieces (ps : List Piece) : Option (List Node) :=
  match readAll (fuelFor ps) [] ps with
  | some (ns, []) => some ns
  | _ => none

/-- The statements of a template. -/
def ofText (s : String) : Option (List Node) := (Piece.split s.toList).bind ofPieces

end Node

end NodeBootstrap.Template
