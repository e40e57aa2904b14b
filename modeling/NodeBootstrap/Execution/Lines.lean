import NodeBootstrap.Text.Cut
import NodeBootstrap.Text.Utf8

/-!
# Lines of a program's output

What a program writes is passed on in lines. Every line ends with one line feed, also the last one,
and loses the carriage returns before its end.

* `Lines.cut`: the lines of some bytes, without what ends them;
* `Lines.ofBytes`: the lines as text;
* `Lines.whole`: the lines that are already whole, and the start of the next one.
-/

namespace NodeBootstrap.Lines

/-- The byte that ends a line. -/
def lineFeed : UInt8 := 10

/-- The lines of some bytes without the line feeds; the last one may have had none. -/
def cut : List UInt8 → List (List UInt8)
  | [] => []
  | b :: bs =>
    if b = lineFeed then [] :: cut bs
    else
      match cut bs with
      | [] => [[b]]
      | l :: ls => (b :: l) :: ls

/-- The characters of a line without the carriage returns at its end. -/
def strip (cs : List Char) : List Char := (cs.reverse.dropWhile (· = '\r')).reverse

/-- A line as text, with one line feed. -/
def render (line : List UInt8) : String := String.ofList (strip (Utf8.decode line) ++ ['\n'])

/-- The lines of some bytes as text. -/
def ofBytes (bytes : List UInt8) : List String := (cut bytes).map render

/-- Lines and the start of the next one, all of them with the newest part first. -/
structure Splitting where
  lines : List (List UInt8) := []
  current : List UInt8 := []
deriving DecidableEq, Repr, Inhabited

/-- One more byte. -/
def Splitting.push (s : Splitting) (b : UInt8) : Splitting :=
  if b = lineFeed then ⟨s.current.reverse :: s.lines, []⟩ else ⟨s.lines, b :: s.current⟩

/-- The lines that are whole after some more bytes, and the start of the next one. -/
def whole (start bytes : List UInt8) : List (List UInt8) × List UInt8 :=
  let s := bytes.foldl Splitting.push ⟨[], start.reverse⟩
  (s.lines.reverse, s.current.reverse)

end NodeBootstrap.Lines
