import NodeBootstrap.Template.Value
import NodeBootstrap.Text.Case

/-!
# Filters, tests and functions of a template

* `Markup.escape`: a text in which no character has a meaning in a markup language;
* `Filter.apply`, `Test.apply`, `Function.apply`: each by its name.
-/

namespace NodeBootstrap.Template

namespace Markup

/-- What stands for a character in a markup language. -/
def escapeChar : Char → List Char
  | '&' => ['&', 'a', 'm', 'p', ';']
  | '<' => ['&', 'l', 't', ';']
  | '>' => ['&', 'g', 't', ';']
  | '"' => ['&', 'q', 'u', 'o', 't', ';']
  | '\'' => ['&', '#', 'x', '2', '7', ';']
  | '/' => ['&', '#', 'x', '2', 'f', ';']
  | c => [c]

/-- A text in which no character has a meaning. -/
def escape (s : String) : String := String.ofList (s.toList.flatMap escapeChar)

/-- A value as it is printed into a markup language: a safe text as it is. -/
def print (v : Value) : String :=
  match v with
  | .text s true => s
  | v => escape v.show

/-- Endings of names that say nothing about the language. -/
def neutralEndings : List String := [".j2", ".jinja2", ".jinja"]

/-- Endings of names of files in a markup language. -/
def endings : List String := ["html", "htm", "xml"]

/-- A name without one neutral ending. -/
def bareName (name : String) : String :=
  match neutralEndings.findSome? fun e => Chars.before? e.toList name.toList with
  | some cs => String.ofList cs
  | none => name

/-- Whether a template of some name is in a markup language. -/
def isName (name : String) : Bool :=
  ((Text.pieces '.' (bareName name)).getLast?).any endings.contains

end Markup

namespace Filter

/-- A text in which all occurrences of one text are replaced; an empty one occurs between any two
characters and at both ends. -/
def replace (old new : List Char) : (fuel : Nat) → List Char → List Char
  | 0, cs => cs
  | fuel + 1, cs =>
    if old = [] then
      match cs with
      | [] => new
      | c :: cs => new ++ c :: replace old new fuel cs
    else
      match Chars.after? old cs with
      | some rest => new ++ replace old new fuel rest
      | none =>
        match cs with
        | [] => []
        | c :: cs => c :: replace old new fuel cs

/-- A text without some characters at either end. -/
def trimOf (chars : List Char) (cs : List Char) : List Char :=
  ((cs.dropWhile chars.contains).reverse.dropWhile chars.contains).reverse

/-- A function of texts as a filter. -/
def onText (f : String → String) (v : Value) : Attempt Value := do
  return .plain (f (← v.defined).show)

/-- A value, or another one in its place if it is undefined, or, where asked, if it does not count
as true. -/
def orElse (v other : Value) (lax : Bool) : Attempt Value :=
  if v.isDefined then do
    if lax && !(← v.truth) then return other else return v
  else .ok other

/-- The first of some items. -/
def firstOf (v : Value) (choose : List Value → Option Value) : Attempt Value := do
  return (choose (← (← v.defined).items)).getD (.undefined false)

/-- The value of a filter. -/
def apply (name : String) (v : Value) (args : List Value) : Attempt Value :=
  match name, args with
  | "default", [] => orElse v (.plain "") false
  | "default", [other] => orElse v other false
  | "default", [other, .flag lax] => orElse v other lax
  | "d", [] => orElse v (.plain "") false
  | "d", [other] => orElse v other false
  | "d", [other, .flag lax] => orElse v other lax
  | "upper", [] => onText Text.upper v
  | "lower", [] => onText Text.lower v
  | "trim", [] => onText Text.trim v
  | "trim", [.text chars _] => onText (fun s => String.ofList (trimOf chars.toList s.toList)) v
  | "replace", [old, new] => do
    let old := (← old.defined).show
    let new := (← new.defined).show
    onText (fun s => String.ofList (replace old.toList new.toList (s.length + 1) s.toList)) v
  | "length", [] => do return .whole (← v.length)
  | "count", [] => do return .whole (← v.length)
  | "first", [] => firstOf v List.head?
  | "last", [] => firstOf v List.getLast?
  | "e", [] => do return .text (Markup.print (← v.defined)) true
  | "escape", [] => do return .text (Markup.print (← v.defined)) true
  | "safe", [] => do return .text (← v.defined).show true
  | _, _ => .error .unknownName

end Filter

namespace Test

/-- The answer of a test. -/
def apply (name : String) (v : Value) (args : List Value) : Attempt Bool :=
  match name, args with
  | "defined", [] => .ok v.isDefined
  | "undefined", [] => .ok !v.isDefined
  | "none", [] => .ok (match v with | .nothing => true | _ => false)
  | "string", [] => .ok (match v with | .text .. => true | _ => false)
  | "number", [] => .ok (match v with | .whole _ => true | .real _ => true | _ => false)
  | "sequence", [] => .ok (match v with | .list _ => true | _ => false)
  | "mapping", [] => .ok (match v with | .map _ => true | _ => false)
  | _, _ => .error .unknownName

end Test

namespace Function

/-- The most numbers that a range may have. -/
def rangeLimit : Nat := 100000

/-- The numbers from one bound up to, but without, the other, with equal steps between them. -/
def range (start stop step : Int) : Attempt Value :=
  let span := if 0 < step then stop - start else start - stop
  let count := if span ≤ 0 then 0 else ((span + step.natAbs - 1) / step.natAbs).toNat
  if step = 0 ∨ rangeLimit < count then .error .unsupportedOperation
  else .ok (.list ((List.range count).map fun (k : Nat) => .whole (start + k * step)))

/-- The value of a function. Of the engine's own functions `dict`, `debug` and `namespace` are left
out. -/
def apply (name : String) (args : List Value) : Attempt Value :=
  match name, args with
  | "range", [.whole stop] => range 0 stop 1
  | "range", [.whole start, .whole stop] => range start stop 1
  | "range", [.whole start, .whole stop, .whole step] => range start stop step
  | "range", _ => .error .unsupportedOperation
  | _, _ => .error .unknownName

end Function

end NodeBootstrap.Template
