import NodeBootstrap.Proofs.OutputLines
import NodeBootstrap.Proofs.Decoding
import NodeBootstrap.Proofs.Cutting
import Mathlib.Data.List.DropRight

/-!
# What readers capture

* **`Process.captured_in_any_order`**: whatever turns the readers of a program take, they capture
  every line of its streams;
* `Lines.ofText`, `Lines.tidy`: the lines of a text, and the text with each of its lines tidied;
* `Lines.map_decode_cut`: lines may be decoded one by one;
* **`Process.captured_as_text`**: what is captured of a stream is its whole text, tidied.
-/

namespace NodeBootstrap

/-! ## In any order -/

namespace Process

/-- **Whatever turns the readers of a program take**, once both are done each of them has the lines
of its stream, their record has the lines of both in an order that keeps those of each, and so has
the display unless the command is quiet. This is what the program is reported with, and the turns
that are taken when it is run are such turns. -/
theorem captured_in_any_order (p : Process) (c : Command) (turns : List Stream)
    (hout : (p.reading c.quiet turns).out.done = true)
    (herr : (p.reading c.quiet turns).err.done = true) :
    let rs := p.reading c.quiet turns
    let out := Lines.ofBytes (p.bytes .out)
    let err := Lines.ofBytes (p.bytes .err)
    rs.out.kept.reverse = out ∧ rs.err.kept.reverse = err ∧
      Merged out err rs.record.reverse ∧
      (if c.quiet then rs.display = [] else Merged out err rs.display.reverse) ∧
      p.report c rs =
        (if p.status = some 0 then
          .ok ⟨p.status, String.join out, String.join err, String.join rs.record.reverse⟩
        else .error (.command c.program c.arguments p.status (String.join rs.record.reverse))) ∧
      (∀ limit, p.isLate limit = false → p.answer c limit = p.report c (p.readers c.quiet)) ∧
      p.readers c.quiet = p.reading c.quiet p.promptTurns ∧
      ∀ stream, ((p.readers c.quiet).reader stream).done = true := by
  obtain ⟨okept, ekept, hrecord, hdisplay⟩ := (p.consistent_reading c.quiet turns).of_done hout herr
  refine ⟨okept, ekept, hrecord, hdisplay, ?_, fun limit hlimit => ?_,
    p.readers_eq_reading c.quiet, p.done_readers c.quiet⟩
  · rw [report, Readers.textOf, Readers.textOf, Readers.textOf, okept, ekept]
  · rw [answer, hlimit]
    rfl

/-- A program that fails, of whose two lines the second is shown first and the first noted first. -/
theorem captured_in_any_order_of_two_lines :
    let p : Process := { writes := [⟨0, .out, [97, 10]⟩, ⟨0, .err, [98]⟩], status := some 1 }
    let c : Command := { program := "make" }
    let rs := p.reading false [.out, .err, .err, .out, .out, .err, .err, .out]
    rs.record.reverse = ["a\n", "b\n"] ∧ rs.display.reverse = ["b\n", "a\n"] ∧
      Merged ["a\n"] ["b\n"] rs.record.reverse ∧ Merged ["a\n"] ["b\n"] rs.display.reverse ∧
      p.report c rs = .error (.command "make" [] (some 1) (String.join ["a\n", "b\n"])) := by
  intro p c rs
  have hout : Lines.ofBytes (p.bytes .out) = ["a\n"] := by
    change Lines.ofBytes [97, 10] = _
    simp [Lines.ofBytes, Lines.cut, Lines.lineFeed, Lines.render, Lines.strip, Utf8.decode,
      Utf8.first]
  have herr : Lines.ofBytes (p.bytes .err) = ["b\n"] := by
    change Lines.ofBytes [98] = _
    simp [Lines.ofBytes, Lines.cut, Lines.lineFeed, Lines.render, Lines.strip, Utf8.decode,
      Utf8.first]
  have hrs : rs = (Readers.start false ["a\n"] ["b\n"]).run
      [.out, .err, .err, .out, .out, .err, .err, .out] := by rw [← hout, ← herr]; rfl
  obtain ⟨-, -, hrecord, hdisplay, hreport, -⟩ := captured_in_any_order p c
    [.out, .err, .err, .out, .out, .err, .err, .out]
    (show rs.out.done = true by rw [hrs]; rfl) (show rs.err.done = true by rw [hrs]; rfl)
  rw [hout, herr] at hrecord hdisplay
  have hnoted : rs.record.reverse = ["a\n", "b\n"] := by rw [hrs]; rfl
  refine ⟨hnoted, by rw [hrs]; rfl, hrecord, hdisplay, hreport.trans ?_⟩
  rw [if_neg (by decide), ← hnoted]

end Process

/-! ## Lines of a text -/

/-- What is up to each separator, and what is after the last one, make up any list. -/
@[elab_as_elim]
theorem sep_induction {α : Type} [DecidableEq α] (sep : α) {motive : List α → Prop}
    (last : ∀ l, sep ∉ l → motive l)
    (line : ∀ l rest, sep ∉ l → motive rest → motive (l ++ sep :: rest)) (all : List α) :
    motive all := by
  suffices h : ∀ front, sep ∉ front → motive (front ++ all) from h [] List.not_mem_nil
  induction all with
  | nil => exact fun front h => by rw [List.append_nil]; exact last front h
  | cons x all ih =>
    intro front h
    by_cases hx : x = sep
    · subst hx
      exact line front all h (ih [] List.not_mem_nil)
    · have hfront : sep ∉ front ++ [x] := by simpa [h, eq_comm] using hx
      simpa using ih _ hfront

namespace Lines

/-- The lines of a text without the line feeds; the last one may have had none. -/
def ofText (cs : List Char) : List (List Char) :=
  let ps := Chars.pieces '\n' cs
  if ps.getLast? = some [] then ps.dropLast else ps

/-- A text in which each line ends with one line feed and has no carriage returns before it. -/
def tidy (cs : List Char) : List Char :=
  ((ofText cs).map (·.rdropWhile (· = '\r'))).flatMap (· ++ ['\n'])

variable {l : List Char}

theorem ofText_of_not_mem (h : '\n' ∉ l) : ofText l = if l.isEmpty then [] else [l] := by
  rw [ofText, Chars.pieces_of_not_mem h]
  cases l <;> simp

theorem ofText_line (h : '\n' ∉ l) (cs : List Char) :
    ofText (l ++ '\n' :: cs) = l :: ofText cs := by
  have hne := Chars.pieces_ne_nil '\n' cs
  rw [ofText, ofText, Chars.pieces_append h, List.getLast?_cons_of_ne_nil hne,
    List.dropLast_cons_of_ne_nil hne]
  split_ifs <;> rfl

/-- Lines that are put together are the lines of the text that they make. -/
theorem ofText_flatMap {ls : List (List Char)} (h : ∀ l ∈ ls, '\n' ∉ l) :
    ofText (ls.flatMap (· ++ ['\n'])) = ls := by
  induction ls with
  | nil => rfl
  | cons l ls ih =>
    obtain ⟨hl, hls⟩ := List.forall_mem_cons.mp h
    rw [List.flatMap_cons, List.append_assoc, List.singleton_append, ofText_line hl, ih hls]

theorem not_mem_of_mem_ofText {cs : List Char} (h : l ∈ ofText cs) : '\n' ∉ l := by
  rw [ofText] at h
  split_ifs at h
  · exact Chars.not_mem_of_mem_pieces ((List.dropLast_sublist _).subset h)
  · exact Chars.not_mem_of_mem_pieces h

/-! ### Tidy texts -/

theorem tidy_line (h : '\n' ∉ l) (cs : List Char) :
    tidy (l ++ '\n' :: cs) = l.rdropWhile (· = '\r') ++ '\n' :: tidy cs := by
  rw [tidy, ofText_line h, List.map_cons, List.flatMap_cons, List.append_assoc,
    List.singleton_append, tidy]

/-- A text that has been tidied is tidy. -/
theorem tidy_tidy (cs : List Char) : tidy (tidy cs) = tidy cs := by
  have hlines : ofText (tidy cs) = (ofText cs).map (·.rdropWhile (· = '\r')) := by
    refine ofText_flatMap fun l hl => ?_
    obtain ⟨l', hl', rfl⟩ := List.mem_map.mp hl
    exact fun hmem => not_mem_of_mem_ofText hl' ((List.rdropWhile_prefix _ _).subset hmem)
  rw [tidy, hlines, List.map_map, tidy]
  simp only [Function.comp_def, List.rdropWhile_idempotent]

/-- A text whose last line is ended, and none by a carriage return, is tidy. -/
theorem tidy_eq_self (cs : List Char) (hend : cs = [] ∨ cs.getLast? = some '\n')
    (hreturn : ¬ ['\r', '\n'] <:+: cs) : tidy cs = cs := by
  induction cs using sep_induction '\n' with
  | last l h =>
    rcases hend with rfl | hlast
    · rfl
    · exact absurd (List.mem_of_getLast? hlast) h
  | line l rest h ih =>
    have hstrip : l.rdropWhile (· = '\r') = l := by
      refine List.rdropWhile_eq_self_iff.mpr fun hne hlast => hreturn ?_
      rw [← List.dropLast_append_getLast hne, of_decide_eq_true hlast]
      exact ⟨l.dropLast, rest, by simp⟩
    have hrest : rest = [] ∨ rest.getLast? = some '\n' := by
      cases rest with
      | nil => exact .inl rfl
      | cons c rest => exact .inr (by simpa using hend)
    rw [tidy_line h, hstrip, ih hrest fun hinfix => hreturn ?_]
    exact hinfix.trans (List.suffix_append_of_suffix (List.suffix_cons _ _)).isInfix

/-! ### Lines of bytes as lines of text -/

theorem decode_line (l bytes : List UInt8) :
    Utf8.decode (l ++ lineFeed :: bytes) = Utf8.decode l ++ '\n' :: Utf8.decode bytes :=
  Utf8.decode_append_ascii (by decide) l bytes

/-- **Lines may be decoded one by one.** -/
theorem map_decode_cut (bytes : List UInt8) :
    (cut bytes).map Utf8.decode = ofText (Utf8.decode bytes) := by
  have hkeep : ∀ {l : List UInt8}, lineFeed ∉ l → '\n' ∉ Utf8.decode l :=
    Utf8.not_mem_decode (by decide)
  induction bytes using sep_induction lineFeed with
  | last l h =>
    rw [cut_of_not_mem h, ofText_of_not_mem (hkeep h)]
    cases l with
    | nil => rw [Utf8.decode]; rfl
    | cons b l =>
      have hne : (Utf8.decode (b :: l)).isEmpty = false := by rw [Utf8.decode]; rfl
      rw [hne]
      rfl
  | line l rest h ih => rw [cut_line h, List.map_cons, decode_line, ofText_line (hkeep h), ih]

/-- The lines of bytes are those of the text that they stand for, tidied. -/
theorem toList_join_ofBytes (bytes : List UInt8) :
    (String.join (ofBytes bytes)).toList = tidy (Utf8.decode bytes) := by
  rw [String.toList_join, tidy, ← map_decode_cut, ofBytes, List.map_map, List.flatMap_map,
    List.flatMap_map]
  simp only [render, String.toList_ofList]
  rfl

end Lines

/-! ## Captured texts -/

namespace Process

/-- What is captured of a stream of a program. -/
def captured (p : Process) (quiet : Bool) (stream : Stream) : String :=
  Readers.textOf ((p.readers quiet).reader stream).kept

theorem captured_eq (p : Process) (quiet : Bool) (stream : Stream) :
    p.captured quiet stream = String.join (Lines.ofBytes (p.bytes stream)) := by
  have hconsistent := p.readers_eq_reading quiet ▸ p.consistent_reading quiet p.promptTurns
  obtain ⟨hout, herr, -⟩ := hconsistent.of_done (p.done_readers quiet .out)
    (p.done_readers quiet .err)
  rw [captured, Readers.textOf]
  cases stream with
  | out => exact congrArg String.join hout
  | err => exact congrArg String.join herr

/-- **What is captured of a stream is its whole text, tidied.** A tidy text is captured as it is,
and so is what has been captured. -/
theorem captured_as_text (p : Process) (quiet : Bool) (stream : Stream) :
    ∃ cs, (∀ cs', Utf8.Decoded (p.bytes stream) cs' ↔ cs' = cs) ∧
      (Lines.cut (p.bytes stream)).map Utf8.decode = Lines.ofText cs ∧
      (p.captured quiet stream).toList = Lines.tidy cs ∧
      (∀ text : String, p.bytes stream = Utf8.encode text →
        (text = "" ∨ text.toList.getLast? = some '\n') → ¬ ['\r', '\n'] <:+: text.toList →
          p.captured quiet stream = text) ∧
      ∀ (again : Process) (quiet' : Bool) (stream' : Stream),
        again.bytes stream' = Utf8.encode (p.captured quiet stream) →
          again.captured quiet' stream' = p.captured quiet stream := by
  have htext : ∀ (q : Process) quiet stream,
      (q.captured quiet stream).toList = Lines.tidy (Utf8.decode (q.bytes stream)) := by
    intro q quiet stream
    rw [captured_eq, Lines.toList_join_ofBytes]
  refine ⟨Utf8.decode (p.bytes stream), fun cs => Utf8.decoded_iff, Lines.map_decode_cut _,
    htext p quiet stream, fun text hbytes hend hreturn => ?_, fun again quiet' stream' hbytes => ?_⟩
  · rw [← String.toList_inj, htext, hbytes, Utf8.decode_encode]
    exact Lines.tidy_eq_self _ (hend.imp_left (by rintro rfl; rfl)) hreturn
  · rw [← String.toList_inj, htext, hbytes, Utf8.decode_encode, htext, Lines.tidy_tidy]

end Process

end NodeBootstrap
