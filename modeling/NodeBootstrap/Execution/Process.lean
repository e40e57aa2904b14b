import NodeBootstrap.Execution.Basic
import NodeBootstrap.Execution.Readers

/-!
# Programs on a host

* `Process`: what a program writes and when, and how and when it ends;
* `Host`: what programs do on a host, after the commands run there before;
* `Process.readers`: the two readers of its output when all is read;
* `Process.report`, `Process.answer`: what a program comes to;
* `Host.executor`: a host as something that runs commands, each with a limit of time;
* `Host.display`: what the operator sees of commands.
-/

namespace NodeBootstrap

/-- Bytes written to a stream, and the milliseconds since the start. -/
structure Write where
  time : Nat := 0
  stream : Stream
  bytes : List UInt8
deriving DecidableEq, Repr, Inhabited

/-- What a program does: what it writes, the status it ends with unless a signal ends it, and the
milliseconds that it takes. -/
structure Process where
  writes : List Write := []
  status : Option Int := some 0
  time : Nat := 0
deriving DecidableEq, Repr, Inhabited

/-- What a command does on a host after other commands, or why it cannot be started. -/
abbrev Host := List Command → Command → Except OsFault Process

namespace Process

/-- A line that has arrived on a stream. -/
abbrev Arrival := Stream × String

/-- The lines that are whole after some writes, in the order of their arrival, and the starts of
the next ones. -/
def wholeLines : (out err : List UInt8) → List Write → List Arrival × List UInt8 × List UInt8
  | out, err, [] => ([], out, err)
  | out, err, w :: ws =>
    match w.stream with
    | .out =>
      let (ls, out) := Lines.whole out w.bytes
      let (rest, ends) := wholeLines out err ws
      (ls.map (fun l => (.out, Lines.render l)) ++ rest, ends)
    | .err =>
      let (ls, err) := Lines.whole err w.bytes
      let (rest, ends) := wholeLines out err ws
      (ls.map (fun l => (.err, Lines.render l)) ++ rest, ends)

/-- The last line of a stream, if it has no end. -/
def lastLine (stream : Stream) (line : List UInt8) : List Arrival :=
  if line.isEmpty then [] else [(stream, Lines.render line)]

/-- All lines of some writes in the order of their arrival. -/
def arrivals (ws : List Write) : List Arrival :=
  let (ls, out, err) := wholeLines [] [] ws
  ls ++ lastLine .out out ++ lastLine .err err

/-- The lines of one stream. -/
def linesOf (stream : Stream) (ls : List Arrival) : List String :=
  (ls.filter fun l => l.1 == stream).map (·.2)

/-- The readers of some lines when all is read. -/
def readersOf (quiet : Bool) (ls : List Arrival) : Readers :=
  (Readers.start quiet (linesOf .out ls) (linesOf .err ls)).run (Readers.prompt (ls.map (·.1)))

/-- The readers of the program's output when all is read. -/
def readers (p : Process) (quiet : Bool) : Readers := readersOf quiet (arrivals p.writes)

/-- Whether the program takes longer than a limit allows. -/
def isLate (p : Process) (limit : Option Nat) : Bool := limit.any fun l => l ≤ p.time

/-- What the operator sees of the program; of one that is stopped, the lines before that. -/
def display (p : Process) (quiet : Bool) (limit : Option Nat) : String :=
  let rs := match limit with
    | some l =>
      if l ≤ p.time then readersOf quiet (wholeLines [] [] (p.writes.filter (·.time < l))).1
      else p.readers quiet
    | none => p.readers quiet
  Readers.textOf rs.display

/-- The parts of a time in whole seconds and milliseconds. -/
def secondsText (ms : Nat) : String :=
  let places := (Decimal.digits (1000 + ms % 1000)).tail
  let places := (places.reverse.dropWhile (· = '0')).reverse
  let point := if places.isEmpty then [] else ['.']
  String.ofList (Decimal.digits (ms / 1000) ++ point ++ places ++ ['s'])

/-- A limit in words. -/
def limitText (ms : Nat) : String :=
  if ms = 0 then "0ns"
  else if ms < 1000 then Decimal.render ms ++ "ms"
  else secondsText ms

/-- What a program that has ended comes to, by what its readers have. -/
def report (p : Process) (c : Command) (rs : Readers) : Except Failure Output :=
  if p.status = some 0 then
    .ok ⟨p.status, Readers.textOf rs.out.kept, Readers.textOf rs.err.kept, Readers.textOf rs.record⟩
  else .error (.command c.program c.arguments p.status (Readers.textOf rs.record))

/-- The answer to a command that has been started. -/
def answer (p : Process) (c : Command) (limit : Option Nat) : Except Failure Output :=
  if p.isLate limit then .error (.timeout c.line (limitText (limit.getD 0)))
  else p.report c (p.readers c.quiet)

end Process

namespace Host

/-- What is said about a command that could not be started. -/
def notStarted (fault : OsFault) : String := "failed to start: " ++ fault.message

/-- The host as something that runs commands, each of them for some milliseconds at most. -/
def executor (h : Host) (limit : Option Nat) : Executor := fun past c =>
  match h past c with
  | .ok p => p.answer c limit
  | .error e => .error (.command c.program c.arguments none (notStarted e))

/-- What the operator sees of commands that are run after others. -/
def displayFrom (h : Host) (limit : Option Nat) (past : List Command) : List Command → String
  | [] => ""
  | c :: cs =>
    (match h past c with
      | .ok p => p.display c.quiet limit
      | .error _ => "") ++ displayFrom h limit (past ++ [c]) cs

/-- What the operator sees of commands. -/
def display (h : Host) (limit : Option Nat) (cs : List Command) : String :=
  displayFrom h limit [] cs

end Host

end NodeBootstrap
