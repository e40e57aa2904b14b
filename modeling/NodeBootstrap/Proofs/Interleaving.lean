import NodeBootstrap.Execution.Readers
import Mathlib.Data.List.Basic

/-!
# Readers that take turns

Two readers share a record and the display. Whatever turns they take, each reader deals with its own
lines in their order, and what they share has the lines of both.

* `Merged`: a list made up of two lists, each in its order;
* `Reader.taken`, `Reader.shown`, `Reader.noted`: the lines that a reader has dealt with so far;
* `Reader.turn`, `Readers.step_eq`: what one turn does;
* `Readers.Consistent`, `Readers.Consistent.step`, **`Readers.consistent_run`**: what holds at any
  time;
* `Reader.due`, **`Readers.done_run_iff`**: a reader is done after four turns for each line.
-/

namespace NodeBootstrap

/-! ## Merged lists -/

/-- A list made up of two lists, each in its order. -/
inductive Merged {α : Type} : List α → List α → List α → Prop
  | nil : Merged [] [] []
  | left {x : α} {xs ys zs : List α} (h : Merged xs ys zs) : Merged (x :: xs) ys (x :: zs)
  | right {y : α} {xs ys zs : List α} (h : Merged xs ys zs) : Merged xs (y :: ys) (y :: zs)

namespace Merged

variable {α : Type} {xs ys zs xs' ys' zs' : List α}

theorem append_left (h : Merged xs ys zs) (front : List α) :
    Merged (front ++ xs) ys (front ++ zs) := by
  induction front with
  | nil => exact h
  | cons x front ih => exact ih.left

theorem append_right (h : Merged xs ys zs) (front : List α) :
    Merged xs (front ++ ys) (front ++ zs) := by
  induction front with
  | nil => exact h
  | cons y front ih => exact ih.right

theorem append (h : Merged xs ys zs) (h' : Merged xs' ys' zs') :
    Merged (xs ++ xs') (ys ++ ys') (zs ++ zs') := by
  induction h with
  | nil => exact h'
  | left _ ih => exact ih.left
  | right _ ih => exact ih.right

/-- The newest first or the oldest first, lists are merged alike. -/
theorem reverse (h : Merged xs ys zs) : Merged xs.reverse ys.reverse zs.reverse := by
  induction h with
  | nil => exact .nil
  | left _ ih => simpa using ih.append (.left .nil)
  | right _ ih => simpa using ih.append (nil.right (y := _))

end Merged

/-! ## One reader -/

namespace Stage

/-- The line that a reader holds. -/
def held : Stage → List String
  | idle => []
  | taken l | shown l | noted l => [l]

/-- The line that a reader holds and has shown. -/
def heldShown : Stage → List String
  | idle | taken _ => []
  | shown l | noted l => [l]

/-- The line that a reader holds and has noted. -/
def heldNoted : Stage → List String
  | idle | taken _ | shown _ => []
  | noted l => [l]

/-- The turns that are due for the line that a reader holds. -/
def due : Stage → Nat
  | idle => 0
  | taken _ => 3
  | shown _ => 2
  | noted _ => 1

end Stage

namespace Reader

/-- The lines that a reader has taken, the newest first. -/
def taken (r : Reader) : List String := r.stage.held ++ r.kept

/-- The lines that a reader has shown, the newest first. -/
def shown (r : Reader) : List String := r.stage.heldShown ++ r.kept

/-- The lines that a reader has noted, the newest first. -/
def noted (r : Reader) : List String := r.stage.heldNoted ++ r.kept

/-- The line that a reader shows in its next turn. -/
def showing (r : Reader) : List String :=
  match r.stage with
  | .taken l => [l]
  | _ => []

/-- The line that a reader notes in its next turn. -/
def noting (r : Reader) : List String :=
  match r.stage with
  | .shown l => [l]
  | _ => []

/-- A reader after a turn. -/
def turn (r : Reader) : Reader :=
  match r.stage with
  | .idle =>
    match r.rest with
    | [] => r
    | l :: ls => { r with rest := ls, stage := .taken l }
  | .taken l => { r with stage := .shown l }
  | .shown l => { r with stage := .noted l }
  | .noted l => { r with stage := .idle, kept := l :: r.kept }

/-- The turns that a reader needs until it is done. -/
def due (r : Reader) : Nat := Readers.turnsPerLine * r.rest.length + r.stage.due

variable (r : Reader)

/-- A turn loses no line. -/
theorem lines_turn : r.turn.taken.reverse ++ r.turn.rest = r.taken.reverse ++ r.rest := by
  rcases r with ⟨rest, stage, kept⟩
  cases stage with
  | idle => cases rest <;> simp [turn, taken, Stage.held]
  | taken l | shown l | noted l => simp [turn, taken, Stage.held]

theorem shown_turn : r.turn.shown = r.showing ++ r.shown := by
  rcases r with ⟨rest, stage, kept⟩
  cases stage with
  | idle => cases rest <;> rfl
  | taken l | shown l | noted l => rfl

theorem noted_turn : r.turn.noted = r.noting ++ r.noted := by
  rcases r with ⟨rest, stage, kept⟩
  cases stage with
  | idle => cases rest <;> rfl
  | taken l | shown l | noted l => rfl

theorem due_turn : r.turn.due = r.due - 1 := by
  rcases r with ⟨rest, stage, kept⟩
  cases stage with
  | idle =>
    cases rest with
    | nil => rfl
    | cons l ls => simp [turn, due, Stage.due, Readers.turnsPerLine]; omega
  | taken l | shown l | noted l => simp [turn, due, Stage.due]

theorem done_iff : r.done = true ↔ r.due = 0 := by
  rcases r with ⟨rest, stage, kept⟩
  cases stage with
  | idle => cases rest <;> simp [done, due, Stage.due, Readers.turnsPerLine]
  | taken l | shown l | noted l => simp [done, due, Stage.due]

/-- A reader that is done has kept all it has dealt with. -/
theorem kept_of_done {r : Reader} (h : r.done = true) :
    r.rest = [] ∧ r.taken = r.kept ∧ r.shown = r.kept ∧ r.noted = r.kept := by
  rcases r with ⟨rest, stage, kept⟩
  obtain ⟨rfl, rfl⟩ : rest = [] ∧ stage = .idle := by simpa [done] using h
  exact ⟨rfl, rfl, rfl, rfl⟩

end Reader

/-! ## Both readers -/

namespace Readers

variable {quiet : Bool} {out err : List String} {s : Readers}

/-- A turn of one reader changes this reader, and what both share by what it shows and notes. -/
theorem step_eq (s : Readers) (which : Stream) : s.step which =
    { s.set (s.reader which).turn which with
      record := (s.reader which).noting ++ s.record
      display := if s.quiet then s.display else (s.reader which).showing ++ s.display } := by
  rcases hstage : (s.reader which).stage with _ | l | l | l
  · rcases hrest : (s.reader which).rest with _ | ⟨l, ls⟩ <;> cases which <;>
      simp_all [step, set, reader, Reader.turn, Reader.noting, Reader.showing]
  all_goals
    cases which <;>
      simp_all [step, set, reader, Reader.turn, Reader.noting, Reader.showing]

/-- What holds at any time: each reader has its lines, those it has dealt with and those to come,
and what both share has the lines that they have noted and shown. -/
structure Consistent (quiet : Bool) (out err : List String) (s : Readers) : Prop where
  loudness : s.quiet = quiet
  out : s.out.taken.reverse ++ s.out.rest = out
  err : s.err.taken.reverse ++ s.err.rest = err
  record : Merged s.out.noted s.err.noted s.record
  display : if quiet then s.display = [] else Merged s.out.shown s.err.shown s.display

theorem consistent_start (quiet : Bool) (out err : List String) :
    Consistent quiet out err (start quiet out err) where
  loudness := rfl
  out := rfl
  err := rfl
  record := .nil
  display := by
    cases quiet with
    | false => exact .nil
    | true => rfl

/-- What a turn adds to the lines of a reader, it adds to those of both. -/
theorem merged_turn {lines added : Reader → List String} {both : List String}
    (hturn : ∀ r, lines r.turn = added r ++ lines r)
    (h : Merged (lines s.out) (lines s.err) both) (which : Stream) :
    Merged (lines (s.set (s.reader which).turn which).out)
      (lines (s.set (s.reader which).turn which).err) (added (s.reader which) ++ both) := by
  cases which with
  | out =>
    change Merged (lines s.out.turn) (lines s.err) (added s.out ++ both)
    rw [hturn]
    exact h.append_left _
  | err =>
    change Merged (lines s.out) (lines s.err.turn) (added s.err ++ both)
    rw [hturn]
    exact h.append_right _

theorem Consistent.step (h : Consistent quiet out err s) (which : Stream) :
    Consistent quiet out err (s.step which) := by
  obtain ⟨rfl, hout, herr, hrecord, hdisplay⟩ := h
  rw [step_eq]
  refine ⟨by cases which <;> rfl, ?_, ?_, merged_turn Reader.noted_turn hrecord which, ?_⟩
  · cases which with
    | out => exact (Reader.lines_turn _).trans hout
    | err => exact hout
  · cases which with
    | out => exact herr
    | err => exact (Reader.lines_turn _).trans herr
  · cases hquiet : s.quiet with
    | true => simpa [hquiet] using hdisplay
    | false =>
      have hshown : Merged s.out.shown s.err.shown s.display := by simpa [hquiet] using hdisplay
      exact merged_turn Reader.shown_turn hshown which

theorem Consistent.run (h : Consistent quiet out err s) (turns : List Stream) :
    Consistent quiet out err (s.run turns) := by
  induction turns generalizing s with
  | nil => exact h
  | cons which turns ih => exact ih (h.step which)

/-- **Whatever turns the readers take**, the lines stay together and in order. -/
theorem consistent_run (quiet : Bool) (out err : List String) (turns : List Stream) :
    Consistent quiet out err ((start quiet out err).run turns) :=
  (consistent_start quiet out err).run turns

/-- When both are done, each has kept its lines, and what they share is merged of them. -/
theorem Consistent.of_done (h : Consistent quiet out err s)
    (hout : s.out.done = true) (herr : s.err.done = true) :
    s.out.kept.reverse = out ∧ s.err.kept.reverse = err ∧ Merged out err s.record.reverse ∧
      if quiet then s.display = [] else Merged out err s.display.reverse := by
  obtain ⟨orest, otaken, oshown, onoted⟩ := Reader.kept_of_done hout
  obtain ⟨erest, etaken, eshown, enoted⟩ := Reader.kept_of_done herr
  have okept : s.out.kept.reverse = out := by simpa [orest, otaken] using h.out
  have ekept : s.err.kept.reverse = err := by simpa [erest, etaken] using h.err
  refine ⟨okept, ekept, ?_, ?_⟩
  · simpa [onoted, enoted, okept, ekept] using h.record.reverse
  · have hdisplay := h.display
    cases quiet with
    | true => exact hdisplay
    | false =>
      have hshown : Merged s.out.shown s.err.shown s.display := hdisplay
      simpa [oshown, eshown, okept, ekept] using hshown.reverse

/-! ## How long it takes -/

theorem due_step (s : Readers) (which stream : Stream) :
    ((s.step which).reader stream).due =
      (s.reader stream).due - [which].count stream := by
  rw [step_eq]
  cases which <;> cases stream <;> simp [set, reader, Reader.due_turn]

theorem due_run (s : Readers) (turns : List Stream) (stream : Stream) :
    ((s.run turns).reader stream).due = (s.reader stream).due - turns.count stream := by
  induction turns generalizing s with
  | nil => rfl
  | cons which turns ih =>
    have split : ([which] ++ turns).count stream = [which].count stream + turns.count stream :=
      List.count_append
    calc ((s.run (which :: turns)).reader stream).due
        = ((s.step which).reader stream).due - turns.count stream := ih _
      _ = (s.reader stream).due - (which :: turns).count stream := by
        rw [due_step, Nat.sub_sub, ← split, List.singleton_append]

/-- A reader is done exactly when it has had its turns for each of its lines. -/
theorem done_run_iff (quiet : Bool) (out err : List String) (turns : List Stream)
    (stream : Stream) :
    (((start quiet out err).run turns).reader stream).done = true ↔
      turnsPerLine * ((start quiet out err).reader stream).rest.length ≤ turns.count stream := by
  rw [Reader.done_iff, due_run, Nat.sub_eq_zero_iff_le]
  cases stream <;> rfl

end Readers

end NodeBootstrap
