import NodeBootstrap.Execution.Lines

/-!
# Two readers of a program's output

A program writes to two streams. Each has a reader of its own, which takes one line after the
other, shows it to the operator, notes it in a record that both readers share, and keeps it. The
readers take turns in any order.

* `Reader`, `Readers`: what a reader has done, and both readers with what they share;
* `Readers.step`, `Readers.run`: a turn of one reader, and turns one after the other.
-/

namespace NodeBootstrap

/-- One of the two streams that a program writes to. -/
inductive Stream where
  | out
  | err
deriving DecidableEq, Repr, Inhabited

/-- What a reader has done with the line it holds. -/
inductive Stage where
  | idle
  | taken (line : String)
  | shown (line : String)
  | noted (line : String)
deriving DecidableEq, Repr, Inhabited

/-- A reader: the lines to come, the line it holds, and the lines it kept, the newest first. -/
structure Reader where
  rest : List String
  stage : Stage := .idle
  kept : List String := []
deriving DecidableEq, Repr, Inhabited

/-- Whether a reader is done. -/
def Reader.done (r : Reader) : Bool := r.rest.isEmpty && r.stage == .idle

/-- Both readers, the record they share, and what the operator has been shown, each with the newest
line first. -/
structure Readers where
  quiet : Bool
  out : Reader
  err : Reader
  record : List String := []
  display : List String := []
deriving DecidableEq, Repr, Inhabited

namespace Readers

/-- The reader of a stream. -/
def reader (s : Readers) : Stream → Reader
  | .out => s.out
  | .err => s.err

/-- The readers with another one for a stream. -/
def set (s : Readers) (r : Reader) : Stream → Readers
  | .out => { s with out := r }
  | .err => { s with err := r }

/-- A turn of one reader. -/
def step (s : Readers) (which : Stream) : Readers :=
  let r := s.reader which
  match r.stage with
  | .idle =>
    match r.rest with
    | [] => s
    | l :: ls => s.set { r with rest := ls, stage := .taken l } which
  | .taken l =>
    { s with display := if s.quiet then s.display else l :: s.display }.set
      { r with stage := .shown l } which
  | .shown l => { s with record := l :: s.record }.set { r with stage := .noted l } which
  | .noted l => s.set { r with stage := .idle, kept := l :: r.kept } which

/-- Turns one after the other. -/
def run (s : Readers) (turns : List Stream) : Readers := turns.foldl step s

/-- Both readers before their first turn. -/
def start (quiet : Bool) (out err : List String) : Readers := ⟨quiet, ⟨out, .idle, []⟩,
  ⟨err, .idle, []⟩, [], []⟩

/-- Lines in order as one text, of lines with the newest first. -/
def textOf (newestFirst : List String) : String := String.join newestFirst.reverse

/-- The turns a reader needs for one line. -/
def turnsPerLine : Nat := 4

/-- The turns in which each line is dealt with as soon as it arrives. -/
def prompt (arrivals : List Stream) : List Stream :=
  arrivals.flatMap fun s => List.replicate turnsPerLine s

end Readers

end NodeBootstrap
