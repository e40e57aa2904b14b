import NodeBootstrap.Failure

/-!
# Taints

A taint keeps work off a node. It is written `key=value:effect` or `key:effect`; a text that ends
in `-` and has neither sign asks for a taint to be removed and is kept whole as the effect.

* `Taint.parse`: one taint;
* `Taint.parseList`: taints separated by commas, blank parts left out.
-/

namespace NodeBootstrap

/-- A node taint. -/
structure Taint where
  key : String
  value : String
  effect : String
deriving DecidableEq, Repr, Inhabited

namespace Taint

/-- The three forms of a taint, tried in order; `none` when the text has none of them. -/
def parse? (cs : List Char) : Option Taint :=
  match Chars.cut '=' cs with
  | some (key, rest) =>
    match Chars.cut ':' rest with
    | some (value, effect) =>
      if key = [] ∨ effect = [] then none
      else some ⟨String.ofList key, String.ofList value, String.ofList effect⟩
    | none => none
  | none =>
    match Chars.cut ':' cs with
    | some (key, effect) =>
      if key = [] ∨ effect = [] then none
      else some ⟨String.ofList key, "", String.ofList effect⟩
    | none =>
      if 1 < cs.length ∧ cs.getLast? = some '-' then some ⟨"", "", String.ofList cs⟩ else none

/-- Reads one taint as it stands. -/
def parse (spec : String) : Except Failure Taint :=
  match parse? spec.toList with
  | some t => .ok t
  | none => .error (.invalidTaint spec)

/-- Reads one taint without the blanks around it. -/
def parseTrimmed (spec : String) : Except Failure Taint := parse (Text.trim spec)

/-- Reads taints one after the other; the first that is none fails. -/
def parseAll : List String → Except Failure (List Taint)
  | [] => .ok []
  | s :: ss => do
    let t ← parse s
    let ts ← parseAll ss
    return t :: ts

/-- Reads taints separated by commas. -/
def parseList (input : String) : Except Failure (List Taint) := parseAll (Text.listed input)

end Taint

end NodeBootstrap
