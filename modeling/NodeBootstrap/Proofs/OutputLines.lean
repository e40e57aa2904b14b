import NodeBootstrap.Execution.Process
import NodeBootstrap.Proofs.Interleaving

/-!
# The lines that readers are given

A program writes to its streams in pieces, which may end anywhere in a line. The lines of a stream
do not depend on that.

* `Lines.cut_line`, `Lines.cut_append_whole`: bytes are cut at the first line feed, and may be cut
  piece by piece;
* `Process.bytes`: all bytes that a program writes to a stream;
* **`Process.linesOf_arrivals`**: the lines that arrive on a stream are those of its bytes;
* `Process.reading`, `Process.promptTurns`: the readers of a program's output after some turns, and
  the turns in which it is read as it arrives;
* **`Process.readers_eq_reading`**, `Process.done_readers`: after these turns all is read.
-/

namespace NodeBootstrap

/-! ## Lines of bytes -/

namespace Lines

variable {line start bytes : List UInt8}

/-- The first line goes up to the first line feed. -/
theorem cut_line (h : lineFeed ∉ line) (bytes : List UInt8) :
    cut (line ++ lineFeed :: bytes) = line :: cut bytes := by
  induction line with
  | nil => simp [cut]
  | cons b line ih =>
    obtain ⟨hb, hline⟩ : b ≠ lineFeed ∧ lineFeed ∉ line := by
      simpa [eq_comm] using h
    rw [List.cons_append, cut, if_neg hb, ih hline]

/-- What follows the last line feed is a line if there is any. -/
theorem cut_of_not_mem (h : lineFeed ∉ line) : cut line = if line.isEmpty then [] else [line] := by
  induction line with
  | nil => rfl
  | cons b line ih =>
    obtain ⟨hb, hline⟩ : b ≠ lineFeed ∧ lineFeed ∉ line := by
      simpa [eq_comm] using h
    rw [cut, if_neg hb, ih hline]
    cases line <;> rfl

theorem cut_foldl_push (s : Splitting) (h : lineFeed ∉ s.current) (bytes : List UInt8) :
    lineFeed ∉ (bytes.foldl Splitting.push s).current ∧
      ∀ more, s.lines.reverse ++ cut (s.current.reverse ++ (bytes ++ more)) =
        (bytes.foldl Splitting.push s).lines.reverse ++
          cut ((bytes.foldl Splitting.push s).current.reverse ++ more) := by
  induction bytes generalizing s with
  | nil => exact ⟨h, fun more => rfl⟩
  | cons b bytes ih =>
    rw [List.foldl_cons, Splitting.push]
    by_cases hb : b = lineFeed
    · subst hb
      have hline : lineFeed ∉ s.current.reverse := by simpa using h
      obtain ⟨hcurrent, hcut⟩ := ih ⟨s.current.reverse :: s.lines, []⟩ List.not_mem_nil
      rw [if_pos rfl]
      refine ⟨hcurrent, fun more => ?_⟩
      rw [← hcut, List.cons_append, cut_line hline]
      simp
    · obtain ⟨hcurrent, hcut⟩ := ih ⟨s.lines, b :: s.current⟩ (by simpa [hb, eq_comm] using h)
      rw [if_neg hb]
      refine ⟨hcurrent, fun more => ?_⟩
      rw [← hcut]
      simp

theorem not_mem_whole (h : lineFeed ∉ start) (bytes : List UInt8) :
    lineFeed ∉ (whole start bytes).2 := by
  simpa [whole] using (cut_foldl_push ⟨[], start.reverse⟩ (by simpa using h) bytes).1

/-- Lines that are already whole are not changed by the bytes to come. -/
theorem cut_append_whole (h : lineFeed ∉ start) (bytes more : List UInt8) :
    cut (start ++ (bytes ++ more)) =
      (whole start bytes).1 ++ cut ((whole start bytes).2 ++ more) := by
  simpa [whole] using (cut_foldl_push ⟨[], start.reverse⟩ (by simpa using h) bytes).2 more

end Lines

/-! ## Lines of a program's output -/

namespace Process

/-- What some writes put on a stream. -/
def bytesOn (stream : Stream) (ws : List Write) : List UInt8 :=
  (ws.filter fun w => w.stream == stream).flatMap Write.bytes

/-- All bytes that a program writes to a stream. -/
def bytes (p : Process) (stream : Stream) : List UInt8 := bytesOn stream p.writes

section linesOf

variable {stream other : Stream} {lines : List (List UInt8)} {ls ms : List Arrival}

theorem linesOf_append : linesOf stream (ls ++ ms) = linesOf stream ls ++ linesOf stream ms := by
  simp [linesOf]

theorem linesOf_map : linesOf stream (lines.map fun l => (stream, Lines.render l)) =
    lines.map Lines.render := by
  simp [linesOf, List.filter_map, Function.comp_def]

theorem linesOf_map_of_ne (h : other ≠ stream) :
    linesOf stream (lines.map fun l => (other, Lines.render l)) = [] := by
  simp [linesOf, h]

end linesOf

open Lines in
/-- The lines that are whole and the start of the next one are all lines of a stream. -/
theorem linesOf_wholeLines (ws : List Write) {out err : List UInt8}
    (hout : lineFeed ∉ out) (herr : lineFeed ∉ err) :
    lineFeed ∉ (wholeLines out err ws).2.1 ∧ lineFeed ∉ (wholeLines out err ws).2.2 ∧
      linesOf .out (wholeLines out err ws).1 ++ ofBytes (wholeLines out err ws).2.1 =
        ofBytes (out ++ bytesOn .out ws) ∧
      linesOf .err (wholeLines out err ws).1 ++ ofBytes (wholeLines out err ws).2.2 =
        ofBytes (err ++ bytesOn .err ws) := by
  induction ws generalizing out err with
  | nil => simp [wholeLines, hout, herr, linesOf, bytesOn]
  | cons w ws ih =>
    cases hstream : w.stream with
    | out =>
      obtain ⟨hout', herr', houts, herrs⟩ := ih (not_mem_whole hout w.bytes) herr
      simp only [wholeLines, hstream]
      refine ⟨hout', herr', ?_, ?_⟩
      · rw [linesOf_append, linesOf_map, List.append_assoc, houts]
        simp [ofBytes, bytesOn, hstream, cut_append_whole hout]
      · rw [linesOf_append, linesOf_map_of_ne (by decide), List.nil_append, herrs]
        simp [bytesOn, hstream]
    | err =>
      obtain ⟨hout', herr', houts, herrs⟩ := ih hout (not_mem_whole herr w.bytes)
      simp only [wholeLines, hstream]
      refine ⟨hout', herr', ?_, ?_⟩
      · rw [linesOf_append, linesOf_map_of_ne (by decide), List.nil_append, houts]
        simp [bytesOn, hstream]
      · rw [linesOf_append, linesOf_map, List.append_assoc, herrs]
        simp [ofBytes, bytesOn, hstream, cut_append_whole herr]

/-- The last line of a stream is the one that its last bytes make. -/
theorem lastLine_eq {line : List UInt8} (h : Lines.lineFeed ∉ line) (stream : Stream) :
    lastLine stream line = (Lines.cut line).map fun l => (stream, Lines.render l) := by
  rw [Lines.cut_of_not_mem h, lastLine]
  cases line <;> rfl

/-- **The lines that arrive on a stream are those of all its bytes**, in whatever pieces these are
written. -/
theorem linesOf_arrivals (stream : Stream) (ws : List Write) :
    linesOf stream (arrivals ws) = Lines.ofBytes (bytesOn stream ws) := by
  obtain ⟨hout, herr, houts, herrs⟩ :=
    linesOf_wholeLines ws (List.not_mem_nil : Lines.lineFeed ∉ []) List.not_mem_nil
  rw [arrivals, linesOf_append, linesOf_append, lastLine_eq hout, lastLine_eq herr]
  cases stream with
  | out => rw [linesOf_map, linesOf_map_of_ne (by decide), List.append_nil]; exact houts
  | err => rw [linesOf_map, linesOf_map_of_ne (by decide), List.append_nil]; exact herrs

/-! ## Readers of a program's output -/

/-- The readers of the program's output after some turns. -/
def reading (p : Process) (quiet : Bool) (turns : List Stream) : Readers :=
  (Readers.start quiet (Lines.ofBytes (p.bytes .out)) (Lines.ofBytes (p.bytes .err))).run turns

/-- The turns in which each line is dealt with as soon as it has arrived. -/
def promptTurns (p : Process) : List Stream := Readers.prompt ((arrivals p.writes).map (·.1))

variable (p : Process) (quiet : Bool)

/-- The turns in which a program's output is read when it is run. -/
theorem readers_eq_reading : p.readers quiet = p.reading quiet p.promptTurns := by
  rw [readers, readersOf, linesOf_arrivals, linesOf_arrivals, reading, bytes, bytes, promptTurns]

/-- Whatever turns they take, the readers have the lines of the program's streams. -/
theorem consistent_reading (turns : List Stream) :
    Readers.Consistent quiet (Lines.ofBytes (p.bytes .out)) (Lines.ofBytes (p.bytes .err))
      (p.reading quiet turns) :=
  Readers.consistent_run _ _ _ _

/-- Each line that has arrived has its turns. -/
theorem count_prompt (stream : Stream) (ls : List Arrival) :
    (Readers.prompt (ls.map (·.1))).count stream =
      Readers.turnsPerLine * (linesOf stream ls).length := by
  induction ls with
  | nil => rfl
  | cons l ls ih =>
    have hturns : Readers.prompt ((l :: ls).map (·.1)) =
        List.replicate Readers.turnsPerLine l.1 ++ Readers.prompt (ls.map (·.1)) := rfl
    rw [hturns, List.count_append, ih, List.count_replicate]
    by_cases h : l.1 = stream
    · have hlines : linesOf stream (l :: ls) = l.2 :: linesOf stream ls := by simp [linesOf, h]
      rw [hlines, List.length_cons, Nat.mul_succ, Nat.add_comm, if_pos (by simpa using h)]
    · simp [linesOf, h]

/-- A reader is done exactly when it has had its turns for each line of its stream. -/
theorem done_reading_iff (turns : List Stream) (stream : Stream) :
    ((p.reading quiet turns).reader stream).done = true ↔
      Readers.turnsPerLine * (Lines.ofBytes (p.bytes stream)).length ≤ turns.count stream := by
  rw [reading, Readers.done_run_iff]
  cases stream <;> rfl

theorem done_readers (stream : Stream) : ((p.readers quiet).reader stream).done = true := by
  rw [readers_eq_reading, done_reading_iff, promptTurns, count_prompt, linesOf_arrivals]
  exact Nat.le_refl _

end Process

end NodeBootstrap
