import NodeBootstrap.Template.Arithmetic
import NodeBootstrap.Template.Filter
import NodeBootstrap.Template.Node

/-!
# Rendering a template

* `Scopes`: the names bound at some place of a template, the innermost first;
* `Expr.eval`: the value of an expression;
* `Node.render`, `Node.renderAll`: what statements print, and the names bound after them;
* `Template.render`: a template rendered with some values.
-/

namespace NodeBootstrap.Template

/-- Names and their values, the innermost scope first. -/
abbrev Scopes := List (List (String × Value))

namespace Scopes

/-- The value of a name; an unknown name is undefined. The engine binds the names of its functions
`range`, `dict`, `debug` and `namespace` to values that print as what they are; here they are not
bound, so that each of them is undefined where it is printed alone. -/
def find (s : Scopes) (name : String) : Value :=
  ((s.flatten.find? fun b => b.1 == name).map (·.2)).getD (.undefined false)

/-- The scopes with a name bound in the innermost one. -/
def bind (name : String) (v : Value) : Scopes → Scopes
  | [] => [[(name, v)]]
  | b :: bs => ((name, v) :: b) :: bs

end Scopes

namespace Target

mutual

/-- The scopes with the names of a target bound to a value. -/
def bind : Target → Value → Scopes → Attempt Scopes
  | name s, v, scopes => .ok (scopes.bind s v)
  | items ts, v, scopes => do
    match v with
    | .list xs => bindAll ts xs scopes
    | _ => throw .unsupportedOperation
termination_by structural t => t

/-- The scopes with the names of targets bound to as many values. -/
def bindAll : List Target → List Value → Scopes → Attempt Scopes
  | [], [], scopes => .ok scopes
  | t :: ts, x :: xs, scopes => do bindAll ts xs (← bind t x scopes)
  | _, _, _ => .error .unsupportedOperation
termination_by structural ts => ts

end

end Target

namespace Expr

/-- Whether an argument is written without a name; the filters and functions know no others. -/
def isPlain : Expr → Bool
  | named .. => false
  | _ => true

mutual

/-- The value of an expression. -/
def eval : Expr → Scopes → Attempt Value
  | text s, _ => .ok (.plain s)
  | whole n, _ => .ok (.whole n)
  | real x, _ => .ok (.real x)
  | flag b, _ => .ok (.flag b)
  | nothing, _ => .ok .nothing
  | absent, _ => .ok (.undefined true)
  | name s, scopes => .ok (scopes.find s)
  | list xs, scopes => do return .list (← evalAll xs scopes)
  | map keys values, scopes => do
    let ks ← evalAll keys scopes
    let vs ← evalAll values scopes
    return .map ((ks.zip vs).foldl (fun es (k, v) => Value.insert k v es) [])
  | negative a, scopes => do (← (← eval a scopes).defined).negate
  | not a, scopes => do return .flag !(← (← eval a scopes).truth)
  | binary .or a b, scopes => do
    let v ← eval a scopes
    if ← v.truth then return v else eval b scopes
  | binary .and a b, scopes => do
    let v ← eval a scopes
    if ← v.truth then eval b scopes else return v
  | binary op a b, scopes => do Value.apply op (← eval a scopes) (← eval b scopes)
  | choice condition a b, scopes => do
    if ← (← eval condition scopes).truth then eval a scopes else eval b scopes
  | field a s, scopes => do (← eval a scopes).item (.plain s)
  | item a index, scopes => do (← eval a scopes).item (← eval index scopes)
  | slice a start stop step, scopes => do
    (← eval a scopes).sliced (← eval start scopes) (← eval stop scopes) (← eval step scopes)
  | call (name s) args, scopes => do
    let xs ← evalAll args scopes
    if (scopes.find s).isDefined || !args.all isPlain then throw .unsupportedOperation
    Function.apply s (← xs.mapM Value.defined)
  | call _ _, _ => .error .unsupportedOperation
  | named _ a, scopes => eval a scopes
  | filter s a args, scopes => do
    let v ← eval a scopes
    let xs ← evalAll args scopes
    if !args.all isPlain then throw .unsupportedOperation
    Filter.apply s v xs
  | test s a args, scopes => do
    let v ← eval a scopes
    let xs ← evalAll args scopes
    if !args.all isPlain then throw .unsupportedOperation
    return .flag (← Test.apply s v xs)
termination_by structural e => e

/-- The values of expressions. -/
def evalAll : List Expr → Scopes → Attempt (List Value)
  | [], _ => .ok []
  | e :: es, scopes => do
    let v ← eval e scopes
    return v :: (← evalAll es scopes)
termination_by structural es => es

end

end Expr

namespace Node

/-- What a loop knows about the turn with a given index. -/
def turn (items : List Value) (index : Nat) : Value :=
  let n := items.length
  let near (k : Nat) : Value := (items[k]?).getD (.undefined false)
  .map ([("depth", .whole 1), ("depth0", .whole 0), ("first", .flag (index = 0)),
    ("index", .whole (index + 1)), ("index0", .whole index), ("last", .flag (index + 1 = n)),
    ("length", .whole n), ("nextitem", near (index + 1)),
    ("previtem", if index = 0 then .undefined false else near (index - 1)),
    ("revindex", .whole (n - index)), ("revindex0", .whole (n - index - 1))].map
      fun (k, v) => (Value.plain k, v))

/-- A value as it is printed; it must be defined or undefined on purpose. -/
def printed (markup : Bool) (v : Value) : Attempt String :=
  match v with
  | .undefined false => .error .undefinedName
  | v => .ok (if markup then Markup.print v else v.show)

mutual

/-- What a statement prints, and the names bound after it. -/
def render (markup : Bool) : Node → Scopes → Attempt (String × Scopes)
  | literal s, scopes => .ok (String.ofList s, scopes)
  | output e, scopes => do return (← printed markup (← e.eval scopes), scopes)
  | choose condition yes no, scopes => do
    if ← (← condition.eval scopes).truth then renderAll markup yes scopes
    else renderAll markup no scopes
  | each target source filter body otherwise, scopes => do
    let items ← (← source.eval scopes).items
    let items ← match filter with
      | none => pure items
      | some e => items.filterM fun x => do
        (← e.eval (← target.bind x ([] :: scopes))).truth
    if items.isEmpty then renderAll markup otherwise scopes
    else do
      let indices := List.range items.length
      let (out, _) ← (items.zip indices).foldlM (fun (out, scopes) (x, k) => do
        let scopes := Scopes.bind "loop" (turn items k) scopes
        let (s, scopes) ← renderAll markup body (← target.bind x scopes)
        return (out ++ s, scopes)) ("", [] :: scopes)
      return (out, scopes)
  | assign target e, scopes => do return ("", ← target.bind (← e.eval scopes) scopes)
  | capture name body, scopes => do
    let (s, scopes) ← renderAll markup body scopes
    return ("", scopes.bind name (.text s markup))
  | scope bindings body, scopes => do
    let inner ← bindings.foldlM (fun inner (target, e) => do target.bind (← e.eval inner) inner)
      ([] :: scopes)
    let (s, inner) ← renderAll markup body inner
    return (s, inner.tail)
  | elsewhere, _ => .error .unknownName
termination_by structural n => n

/-- What statements print one after the other, and the names bound after them. -/
def renderAll (markup : Bool) : List Node → Scopes → Attempt (String × Scopes)
  | [], scopes => .ok ("", scopes)
  | n :: ns, scopes => do
    let (s, scopes) ← render markup n scopes
    let (t, scopes) ← renderAll markup ns scopes
    return (s ++ t, scopes)
termination_by structural ns => ns

end

end Node

/-- A template of some name rendered with some values. -/
def render (name source : String) (values : List (String × Value)) : Attempt String :=
  match Node.ofText source with
  | none => .error .malformed
  | some ns => (Node.renderAll (Markup.isName name) ns [values]).map (·.1)

end NodeBootstrap.Template
