import NodeBootstrap.Proofs.Spots

/-!
# Reading blocks of lines

A block of lines is read back with the ends of its lines. What ends its last line is kept as the
sign in its first line says.

* `ReadScalar.emptyLines_line`, `ReadScalar.emptyLines_feeds`: empty lines, and the place where
  the next line begins;
* `ReadScalar.blockLines_eq`: the lines from one on, with what ends the last of them apart;
* `Scalar.chompMark_cases`: what the sign in the first line keeps;
* **`ReadScalar.block_writeLiteral`**: a text as a block of lines is read back.
-/

namespace NodeBootstrap

open ReadScalar Scalar
open Yaml (endLine)

/-! ## Empty lines -/

namespace ReadScalar

section EmptyLines

variable {limit : Option Nat} {column : Nat} {c : Char}

/-- The indentation of a line is read up to the limit, or up to the first character of the line. -/
theorem emptyLines_line (widest : Nat) {m : Nat} (hc : isBreak c = false)
    (hinside : ∀ n ∈ limit, column + m ≤ n)
    (hstop : limit = some (column + m) ∨ c ≠ ' ' ∧ c ≠ '\t') (r : List Char) :
    emptyLines limit column widest (spaces m ++ c :: r) =
      some ([], max widest (column + m), ⟨column + m, c :: r⟩) := by
  induction m generalizing column with
  | zero =>
    have hreturn : c ≠ '\r' := by
      rintro rfl
      exact absurd hc (by decide)
    rcases hstop with rfl | ⟨hspace, htab⟩
    · simp [emptyLines, spaces, hc, hreturn]
    · simp [emptyLines, spaces, hc, hreturn, hspace, htab]
  | succ m ih =>
    have hroom : limit.all (fun n => column < n) = true := by
      rcases limit with _ | n
      · rfl
      · have hn := hinside n rfl
        simp only [Option.all_some, decide_eq_true_eq]
        omega
    have hsum : column + (m + 1) = column + 1 + m := by omega
    rw [hsum] at hinside hstop ⊢
    have hspace : emptyLines limit column widest (' ' :: (spaces m ++ c :: r)) =
        emptyLines limit (column + 1) widest (spaces m ++ c :: r) := by
      simp [emptyLines, hroom]
    rw [spaces, List.replicate_succ, List.cons_append]
    rw [spaces] at hspace ih
    rw [hspace, ih hinside hstop]

/-- Empty lines are read as the ends of lines that they are. -/
theorem emptyLines_feeds {feeds cs : List Char} (h : ∀ c ∈ feeds, IsFeed c) {s : Spot}
    (hcs : ∀ widest, ∃ w, emptyLines limit 0 widest cs = some ([], w, s)) (widest : Nat) :
    ∃ w, emptyLines limit 0 widest (feeds ++ cs) = some (feeds, w, s) := by
  induction feeds generalizing widest with
  | nil => exact hcs widest
  | cons c feeds ih =>
    obtain ⟨hc, hfeeds⟩ := List.forall_mem_cons.mp h
    obtain ⟨w, hw⟩ := ih hfeeds widest
    refine ⟨w, ?_⟩
    rcases hc with rfl | rfl | rfl
    · simp [emptyLines, isBreak, hw]
    · simp [emptyLines, isBreak, hw]
    · simp [emptyLines, isBreak, hw]

/-- A line of the block begins at its indentation, whatever it begins with. -/
theorem emptyLines_inside {n : Nat} (hc : isBreak c = false) (r : List Char) (widest : Nat) :
    ∃ w, emptyLines (some n) 0 widest (spaces n ++ c :: r) = some ([], w, ⟨n, c :: r⟩) := by
  have hline := emptyLines_line widest (m := n) hc
    (show ∀ k ∈ some n, 0 + n ≤ k by simp) (Or.inl (by simp)) r
  rw [Nat.zero_add] at hline
  exact ⟨_, hline⟩

/-- What follows the block begins before its indentation. -/
theorem emptyLines_outside {n least : Nat} (hn : least ≤ n) {t : List Char} (ht : Follows least t)
    (widest : Nat) : ∃ w, emptyLines (some n) 0 widest t = some ([], w, Spot.next 0 t) := by
  cases ht with
  | nothing => exact ⟨_, rfl⟩
  | @line m cs hm hstart =>
    obtain ⟨c, r, rfl, hc⟩ := hstart.exists_isSolid
    have hline := emptyLines_line widest (isBreak_of_isSolid hc)
      (show ∀ k ∈ some n, 0 + m ≤ k from fun k hk => by cases hk; omega)
      (Or.inr ⟨ne_space_of_isSolid hc, ne_tab_of_isSolid hc⟩) r
    rw [Spot.next_spaces hc]
    exact ⟨_, hline⟩

end EmptyLines

/-! ## Lines -/

/-- A text of lines: it does not begin with the end of one, and the last of them ends. -/
structure IsLines (v : List Char) : Prop where
  full : v ≠ []
  start : ∀ c ∈ v.head?, isBreak c = false
  ended : ∀ c ∈ v.getLast?, isBreak c = true
  feeds : ∀ c ∈ v, isBreak c = true → IsFeed c

/-- Such a text is a line, the end of it, empty lines, and nothing more or further lines. -/
theorem IsLines.exists_line {v : List Char} (h : IsLines v) :
    ∃ line b empty rest, v = line ++ b :: (empty ++ rest) ∧ line ≠ [] ∧
      (∀ c ∈ line, isBreak c = false) ∧ IsFeed b ∧ (∀ c ∈ empty, IsFeed c) ∧
      (rest = [] ∨ IsLines rest) := by
  obtain ⟨line, back, rfl, hline, hchars, hback⟩ :=
    Chars.exists_run (p := fun c => !isBreak c) h.full (by simpa using h.start)
  have hunbroken : ∀ c ∈ line, isBreak c = false := fun c hc => by simpa using hchars c hc
  rcases back with _ | ⟨b, back⟩
  · have hended := h.ended
    rw [List.append_nil, List.getLast?_eq_some_getLast hline] at hended
    exact absurd (hended _ rfl) (by simp [hunbroken _ (List.getLast_mem hline)])
  · obtain ⟨empty, rest, rfl, hempty, hrest⟩ := Chars.exists_split isBreak back
    have hfeed {c : Char} (hc : c ∈ b :: (empty ++ rest)) (hbreak : isBreak c = true) : IsFeed c :=
      h.feeds c (List.mem_append_right line hc) hbreak
    have hb : IsFeed b := hfeed (List.mem_cons_self ..) (by simpa using hback b rfl)
    refine ⟨line, b, empty, rest, rfl, hline, hunbroken, hb, fun c hc => ?_, ?_⟩
    · exact hfeed (List.mem_cons_of_mem b (List.mem_append_left rest hc)) (hempty c hc)
    · rcases rest with _ | ⟨c, r⟩
      · exact Or.inl rfl
      · refine Or.inr ⟨List.cons_ne_nil c r, hrest, fun d hd => h.ended d ?_, fun d hd => ?_⟩
        · have hlast := List.getLast?_append_of_ne_nil (line ++ b :: empty) (List.cons_ne_nil c r)
          rw [List.append_assoc, List.cons_append] at hlast
          rwa [hlast]
        · exact hfeed (List.mem_cons_of_mem b (List.mem_append_right empty hd))

theorem takeBreak?_feed {b : Char} (h : IsFeed b) (cs : List Char) :
    Chars.takeBreak? (b :: cs) = some (b, cs) := by
  rcases h with rfl | rfl | rfl
  · rfl
  · rfl
  · rfl

/-- How the lines from one on are written. -/
theorem indented_line {n : Nat} {line empty rest : List Char} {b : Char}
    (hline : ∀ c ∈ line, isBreak c = false) (hb : IsFeed b) (hempty : ∀ c ∈ empty, IsFeed c) :
    indented n false (line ++ b :: (empty ++ rest)) =
      line ++ b :: (empty ++ indented n true rest) := by
  have hbreaks : ∀ c ∈ b :: empty, isBreak c = true :=
    List.forall_mem_cons.mpr ⟨hb.isBreak, fun c hc => (hempty c hc).isBreak⟩
  have hrun := indented_breaks (n := n) (List.cons_ne_nil b empty) hbreaks false rest
  rw [indented_unbroken hline, ← List.cons_append, hrun, List.cons_append]

/-- What follows the block is no further line of it. -/
theorem not_inside {n least : Nat} (hn : least ≤ n) {t : List Char} (ht : Follows least t) :
    ¬((Spot.next 0 t).column = n ∧ (Spot.next 0 t).rest ≠ []) := by
  cases ht with
  | nothing => exact fun h => h.2 rfl
  | @line m cs hm hstart =>
    rw [hstart.next_spaces]
    rintro ⟨hcolumn, -⟩
    simp only at hcolumn
    omega

/-- The lines of a block from one on are read, with what ends the last of them apart. -/
theorem blockLines_eq {n least : Nat} (hn : least ≤ n) {t : List Char} (ht : Follows least t)
    {fuel : Nat} {v : List Char} (h : IsLines v) (hfuel : v.length < fuel) :
    ∃ body b empty, v = body ++ b :: empty ∧ (∃ c ∈ body.getLast?, isBreak c = false) ∧ IsFeed b ∧
      (∀ c ∈ empty, IsFeed c) ∧
      blockLines false n fuel ⟨n, indented n false v ++ t⟩ =
        some (body, [b], empty, Spot.next 0 t) := by
  induction fuel generalizing v with
  | zero => omega
  | succ fuel ih =>
    obtain ⟨line, b, empty, rest, rfl, hne, hline, hb, hempty, hrest⟩ := h.exists_line
    rw [indented_line hline hb hempty, List.append_assoc, List.cons_append, List.append_assoc]
    have hrun : ∀ c ∈ line, (!isBreak c) = true := by simpa using hline
    have hstop : ∀ c ∈ (b :: (empty ++ (indented n true rest ++ t))).head?,
        (!isBreak c) = false := by simp [hb.isBreak]
    have htake := Chars.takeWhile_run hrun hstop
    have hdrop := Chars.dropWhile_run hrun hstop
    rcases hrest with rfl | hlines
    · obtain ⟨w, hread⟩ := emptyLines_feeds hempty (emptyLines_outside hn ht) 0
      rw [indented, List.nil_append] at htake hdrop ⊢
      refine ⟨line, b, empty, by simp, ?_, hb, hempty, ?_⟩
      · exact ⟨_, List.getLast?_eq_some_getLast hne, hline _ (List.getLast_mem hne)⟩
      · simp only [blockLines, htake, hdrop, takeBreak?_feed hb, hread, Option.bind_eq_bind,
          Option.bind_some, if_neg (not_inside hn ht)]
        rfl
    · obtain ⟨c, r, rfl⟩ := List.exists_cons_of_ne_nil hlines.full
      have hc : isBreak c = false := hlines.start c rfl
      have hnext : indented n false (c :: r) = c :: indented n false r := by
        simp [indented, hc]
      simp only [List.length_append, List.length_cons] at hfuel
      obtain ⟨body, b', empty', heq, hbody, hb', hempty', hmore⟩ :=
        ih hlines (by simp only [List.length_cons]; omega)
      rw [hnext, List.cons_append] at hmore
      obtain ⟨w, hread⟩ := emptyLines_feeds hempty
        (emptyLines_inside hc (indented n false r ++ t) (n := n)) 0
      rw [indented_fresh hc, hnext, List.append_assoc, List.cons_append] at htake hdrop ⊢
      refine ⟨line ++ (b :: empty) ++ body, b', empty', by simp [heq], ?_, hb', hempty', ?_⟩
      · obtain ⟨d, hd, hbreak⟩ := hbody
        refine ⟨d, ?_, hbreak⟩
        rw [List.getLast?_append, hd]
        rfl
      · simp only [blockLines, htake, hdrop, takeBreak?_feed hb, hread, Option.bind_eq_bind,
          Option.bind_some]
        simp [hmore, joint]

end ReadScalar

/-! ## The first line -/

namespace Scalar

section ChompMark

variable {cs body empty : List Char} {b : Char}

theorem chompMark_concat (front : List Char) (c : Char) : chompMark (front ++ [c]) =
    if isBreak c then if front.getLast?.all isBreak then ['+'] else [] else ['-'] := by
  rw [List.getLast?_eq_head?_reverse]
  rcases hfront : front.reverse with _ | ⟨d, r⟩
  · simp [chompMark, hfront]
  · cases hc : isBreak c <;> cases hd : isBreak d <;> simp [chompMark, hfront, hc, hd]

theorem endLine_of_getLast? {c : Char} (h : cs.getLast? = some c) :
    endLine cs = cs ++ (if isBreak c then [] else ['\n']) := by
  rw [endLine, h]
  dsimp only
  split
  · rw [List.append_nil]
  · rfl

/-- What the sign in the first line says of the lines: the text has no end of its last line, it has
one, or it has more than one or nothing else. -/
theorem chompMark_cases (hcs : cs ≠ []) (h : endLine cs = body ++ b :: empty)
    (hbody : ∀ c ∈ body.getLast?, isBreak c = false)
    (hbreaks : ∀ c ∈ b :: empty, isBreak c = true) :
    (chompMark cs = ['-'] ∧ cs = body ∧ body ≠ []) ∨
      (chompMark cs = [] ∧ cs = body ++ [b] ∧ body ≠ []) ∨
      (chompMark cs = ['+'] ∧ cs = body ++ b :: empty) := by
  obtain ⟨front, c, rfl⟩ := (List.eq_nil_or_concat' cs).resolve_left hcs
  have hlast {e : List Char} (he : front ++ [c] = body ++ b :: e) : c ∈ b :: e := by
    refine List.mem_of_getLast? ?_
    rw [← List.getLast?_append_of_ne_nil body (List.cons_ne_nil b e), ← he, List.getLast?_concat]
  rw [endLine_of_getLast? List.getLast?_concat] at h
  rw [chompMark_concat]
  cases hc : isBreak c with
  | false =>
    simp only [hc] at h ⊢
    rcases List.eq_nil_or_concat' empty with rfl | ⟨e, d, rfl⟩
    · obtain ⟨rfl, -⟩ := List.append_inj' h rfl
      exact Or.inl ⟨rfl, rfl, hcs⟩
    · rw [← List.cons_append, ← List.append_assoc] at h
      obtain ⟨hsame, -⟩ := List.append_inj' h rfl
      have hbreak := hbreaks c (by
        rw [← List.cons_append]
        exact List.mem_append_left [d] (hlast hsame))
      exact absurd hbreak (by simp [hc])
  | true =>
    simp only [hc, if_true, List.append_nil] at h ⊢
    rcases List.eq_nil_or_concat' empty with rfl | ⟨e, d, rfl⟩
    · obtain ⟨rfl, hb⟩ := List.append_inj' h rfl
      cases hb
      rcases hfront : front.getLast? with _ | d
      · exact Or.inr (Or.inr ⟨rfl, rfl⟩)
      · rw [hfront] at hbody
        have hne : front ≠ [] := by
          rintro rfl
          simp at hfront
        exact Or.inr (Or.inl ⟨by simp [hbody d rfl], rfl, hne⟩)
    · have hsplit := h
      rw [← List.cons_append, ← List.append_assoc] at hsplit
      obtain ⟨rfl, -⟩ := List.append_inj' hsplit rfl
      have hall : (body ++ b :: e).getLast?.all isBreak = true := by
        rw [List.getLast?_append_of_ne_nil body (List.cons_ne_nil b e),
          List.getLast?_eq_some_getLast (List.cons_ne_nil b e), Option.all_some]
        refine hbreaks _ ?_
        rw [← List.cons_append]
        exact List.mem_append_left [d] (List.getLast_mem _)
      exact Or.inr (Or.inr ⟨by rw [hall]; rfl, h⟩)

end ChompMark

end Scalar

namespace ReadScalar

theorem headerSigns_eq (needs : Bool) (r : List Char) :
    headerSigns ⟨false, .clip, none⟩ ((if needs then ['2'] else []) ++ ['-'] ++ '\n' :: r) =
        (⟨false, .strip, if needs then some 2 else none⟩, '\n' :: r) ∧
      headerSigns ⟨false, .clip, none⟩ ((if needs then ['2'] else []) ++ [] ++ '\n' :: r) =
        (⟨false, .clip, if needs then some 2 else none⟩, '\n' :: r) ∧
      headerSigns ⟨false, .clip, none⟩ ((if needs then ['2'] else []) ++ ['+'] ++ '\n' :: r) =
        (⟨false, .keep, if needs then some 2 else none⟩, '\n' :: r) := by
  cases needs
  · exact ⟨rfl, rfl, rfl⟩
  · exact ⟨rfl, rfl, rfl⟩

section Block

variable {least widest : Nat} {signs r empty : List Char} {chomp : Chomp} {columns : Option Nat}
  {s : Spot}

theorem not_folded : decide ('|' = '>') = false := by decide

theorem headerEnd_newline (r : List Char) : headerEnd ('\n' :: r) = some r := by
  simp [headerEnd, isGap, Chars.takeBreak?, isBreak]

/-- A block of empty lines only. -/
theorem block_empty
    (h : headerSigns ⟨false, .clip, none⟩ signs = (⟨false, chomp, columns⟩, '\n' :: r))
    (hread : emptyLines (columns.map fun n => (least - 1) + n) 0 0 r = some (empty, widest, s))
    (hs : ¬(s.column = (columns.map fun n => (least - 1) + n).getD (max (max widest least) 1) ∧
      s.rest ≠ [])) :
    block least ('|' :: signs) = some (chomped chomp [] empty, Spot.next s.column s.rest) := by
  simp only [block, true_or, if_true, not_folded, h, headerEnd_newline, Option.bind_eq_bind,
    Option.bind_some, hread, if_neg hs]
  rfl

/-- A block with a line that is not empty. -/
theorem block_lines {indent : Nat} {body lastEnd lastEmpty : List Char} {after : Spot}
    (h : headerSigns ⟨false, .clip, none⟩ signs = (⟨false, chomp, columns⟩, '\n' :: r))
    (hread : emptyLines (columns.map fun n => (least - 1) + n) 0 0 r = some (empty, widest, s))
    (hindent : (columns.map fun n => (least - 1) + n).getD (max (max widest least) 1) = indent)
    (hs : s.column = indent ∧ s.rest ≠ [])
    (hlines : blockLines false indent (s.rest.length + 1) s =
      some (body, lastEnd, lastEmpty, after)) :
    block least ('|' :: signs) = some (empty ++ body ++ chomped chomp lastEnd lastEmpty,
      Spot.next after.column after.rest) := by
  simp only [block, true_or, if_true, not_folded, h, headerEnd_newline, Option.bind_eq_bind,
    Option.bind_some, hread, hindent, if_pos hs, hlines]
  rfl

end Block

end ReadScalar

/-! ## Whole blocks -/

namespace Scalar

variable {n : Nat} {cs : List Char}

theorem indented_append_break {c : Char} (hc : isBreak c = true) (fresh : Bool) :
    indented n fresh (cs ++ [c]) = indented n fresh cs ++ [c] := by
  induction cs generalizing fresh with
  | nil => simp [indented, hc]
  | cons d cs ih =>
    rw [List.cons_append, indented, indented]
    split
    · rw [ih, List.cons_append]
    · rw [ih, List.append_assoc, List.cons_append]

/-- The lines of a block are those of the text, the last of them ended. -/
theorem endLine_writeLiteral (hcs : cs ≠ []) : endLine (writeLiteral n cs) =
    '|' :: ((if needsIndentMark cs then ['2'] else []) ++ chompMark cs ++
      '\n' :: indented n true (endLine cs)) := by
  obtain ⟨front, c, rfl⟩ := (List.eq_nil_or_concat' cs).resolve_left hcs
  have hlast : (writeLiteral n (front ++ [c])).getLast? = some c := by
    rw [writeLiteral, List.getLast?_append_of_ne_nil _ (List.cons_ne_nil _ _), List.getLast?_cons,
      getLast?_indented, List.getLast?_concat]
    rfl
  rw [endLine_of_getLast? hlast, endLine_of_getLast? List.getLast?_concat]
  split
  · simp [writeLiteral]
  · rw [indented_append_break (by decide)]
    simp [writeLiteral]

end Scalar

/-! ## Texts as blocks -/

namespace ReadScalar

section Literal

variable {least : Nat} {cs t : List Char}

/-- The lines of a text that may stand as a block, the last of them ended. -/
theorem isFeed_of_mem_endLine (h : literalAllowed cs = true) {c : Char} (hc : c ∈ endLine cs)
    (hbreak : isBreak c = true) : IsFeed c := by
  have hprint : ∀ c ∈ cs, isPrintable c = true := by
    simp only [literalAllowed, Bool.and_eq_true, List.all_eq_true] at h
    exact h.1.1
  rcases Yaml.endLine_eq_or cs with heq | heq
  · rw [heq] at hc
    exact eq_newline_or_isSeparator (hprint c hc) hbreak
  · rw [heq, List.mem_append, List.mem_singleton] at hc
    rcases hc with hc | rfl
    · exact eq_newline_or_isSeparator (hprint c hc) hbreak
    · exact Or.inl rfl

/-- What is written of a text that begins with empty lines. -/
theorem indented_lead {n : Nat} {lead v : List Char} (hlead : ∀ c ∈ lead, isBreak c = true)
    (hv : IsLines v) :
    indented n true (lead ++ v) = lead ++ (spaces n ++ indented n false v) := by
  obtain ⟨c, r, rfl⟩ := List.exists_cons_of_ne_nil hv.full
  have hfresh := indented_fresh (n := n) (hv.start c rfl) r
  by_cases hne : lead = []
  · rw [hne, List.nil_append, hfresh, List.nil_append]
  · rw [indented_breaks hne hlead, hfresh]

theorem isBreak_getLast?_endLine (cs : List Char) :
    ∀ c ∈ (endLine cs).getLast?, isBreak c = true := by
  rcases hlast : cs.getLast? with _ | d
  · rw [List.getLast?_eq_none_iff] at hlast
    rw [hlast]
    rintro c ⟨⟩
    decide
  · rw [endLine_of_getLast? hlast]
    cases hd : isBreak d with
    | true =>
      rintro c hc
      rw [if_pos rfl, List.append_nil, hlast] at hc
      cases hc
      exact hd
    | false =>
      rintro c hc
      simp only [Bool.false_eq_true, if_false, List.getLast?_concat] at hc
      cases hc
      decide

theorem endLine_cons (c : Char) (cs : List Char) : ∃ r, endLine (c :: cs) = c :: r := by
  rcases Yaml.endLine_eq_or (c :: cs) with heq | heq
  · exact ⟨cs, heq⟩
  · exact ⟨cs ++ ['\n'], heq⟩

/-- What is written of a text that needs no columns in the first line begins with neither a blank
nor the end of a line. -/
theorem exists_start_of_not_needs (h : literalAllowed cs = true) (hcs : cs ≠ [])
    (hneeds : needsIndentMark cs = false) :
    ∃ c r, endLine cs = c :: r ∧ isBreak c = false ∧ c ≠ ' ' ∧ c ≠ '\t' := by
  obtain ⟨c, r, rfl⟩ := List.exists_cons_of_ne_nil hcs
  obtain ⟨e, he⟩ := endLine_cons c r
  simp only [needsIndentMark, Bool.or_eq_false_iff] at hneeds
  refine ⟨c, e, he, hneeds.2, by simpa [isSpace] using hneeds.1, ?_⟩
  rintro rfl
  simp only [literalAllowed, Bool.and_eq_true, List.all_eq_true] at h
  exact absurd (h.1.1 _ (List.mem_cons_self ..)) (by decide)

/-- The indentation that is read for a block with a line that is not empty: two columns where the
first line says so, and that of the line where it is plain to see. -/
theorem exists_read_lines (hleast : 0 < least) (h : literalAllowed cs = true) (hcs : cs ≠ [])
    {lead v : List Char} (hsplit : endLine cs = lead ++ v)
    (hlead : ∀ c ∈ lead, isBreak c = true) (hv : IsLines v) :
    ∃ w, emptyLines ((if needsIndentMark cs then some 2 else none).map fun n => (least - 1) + n) 0 0
        (indented (least + 1) true (endLine cs) ++ t) =
          some (lead, w, ⟨least + 1, indented (least + 1) false v ++ t⟩) ∧
      ((if needsIndentMark cs then some 2 else none).map fun n => (least - 1) + n).getD
        (max (max w least) 1) = least + 1 := by
  obtain ⟨c, r, rfl⟩ := List.exists_cons_of_ne_nil hv.full
  have hc : isBreak c = false := hv.start c rfl
  have hnext : indented (least + 1) false (c :: r) = c :: indented (least + 1) false r := by
    simp [indented, hc]
  have hfeeds : ∀ d ∈ lead, IsFeed d := fun d hd =>
    isFeed_of_mem_endLine h (hsplit ▸ List.mem_append_left _ hd) (hlead d hd)
  have hwritten : indented (least + 1) true (endLine cs) ++ t =
      lead ++ (spaces (least + 1) ++ c :: (indented (least + 1) false r ++ t)) := by
    rw [hsplit, indented_lead hlead hv, hnext]
    simp
  rw [hwritten, hnext]
  cases hneeds : needsIndentMark cs with
  | true =>
    have hcolumns : least - 1 + 2 = least + 1 := by omega
    obtain ⟨w, hread⟩ := emptyLines_feeds hfeeds
      (emptyLines_inside (n := least + 1) hc (indented (least + 1) false r ++ t)) 0
    exact ⟨w, by simpa [hcolumns] using hread, by simp [hcolumns]⟩
  | false =>
    obtain ⟨d, e, he, hd, hblank⟩ := exists_start_of_not_needs h hcs hneeds
    rw [he] at hsplit
    have hempty : lead = [] := by
      rcases lead with _ | ⟨l, lead⟩
      · rfl
      · have hl := hlead l (List.mem_cons_self ..)
        rw [← (List.cons.inj hsplit).1, hd] at hl
        cases hl
    subst hempty
    obtain rfl : d = c := (List.cons.inj hsplit).1
    have hline := emptyLines_line 0 (m := least + 1) hc
      (show ∀ k ∈ (none : Option Nat), 0 + (least + 1) ≤ k by simp) (Or.inr hblank)
      (indented (least + 1) false r ++ t)
    refine ⟨least + 1, by simpa using hline, ?_⟩
    simp only [Bool.false_eq_true, if_false, Option.map_none, Option.getD_none]
    omega

/-- A text of empty lines only is read back from its block. -/
theorem block_writeLiteral_empty (hleast : 0 < least) (ht : Follows least t)
    (h : literalAllowed cs = true) (hcs : cs ≠ []) (hbreaks : ∀ c ∈ endLine cs, isBreak c = true) :
    block least (endLine (writeLiteral (least + 1) cs) ++ t) = some (cs, Spot.next 0 t) := by
  obtain ⟨-, -, hkeep⟩ := headerSigns_eq (needsIndentMark cs)
    (indented (least + 1) true (endLine cs) ++ t)
  rw [endLine_writeLiteral hcs, List.cons_append, List.append_assoc, List.cons_append]
  obtain ⟨d, ds, rfl⟩ := List.exists_cons_of_ne_nil hcs
  obtain ⟨empty, hempty⟩ := endLine_cons d ds
  rw [hempty] at hbreaks
  have hfeeds : ∀ c ∈ d :: empty, IsFeed c := fun c hc =>
    isFeed_of_mem_endLine h (hempty ▸ hc) (hbreaks c hc)
  have hneeds : needsIndentMark (d :: ds) = true := by
    simp [needsIndentMark, hbreaks d (List.mem_cons_self ..)]
  have hwritten : indented (least + 1) true (endLine (d :: ds)) = d :: empty := by
    have hlines := indented_breaks (n := least + 1) (List.cons_ne_nil d empty) hbreaks true []
    rw [hempty]
    rwa [List.append_nil, indented, List.append_nil] at hlines
  have hcolumns : least - 1 + 2 = least + 1 := by omega
  obtain ⟨w, hread⟩ := emptyLines_feeds hfeeds (emptyLines_outside (Nat.le_succ least) ht) 0
  rcases chompMark_cases hcs (show _ = [] ++ d :: empty from hempty) (by simp) hbreaks with
    ⟨-, -, hne⟩ | ⟨-, -, hne⟩ | ⟨hmark, hsame⟩
  · exact absurd rfl hne
  · exact absurd rfl hne
  · rw [hmark, block_empty hkeep
      (show _ = some (d :: empty, w, Spot.next 0 t) by
        simpa [hneeds, hcolumns, hwritten] using hread)
      (by simpa [hneeds, hcolumns] using not_inside (Nat.le_succ least) ht), ht.next_next, hsame]
    rfl

/-- A text with a line that is not empty is read back from its block. -/
theorem block_writeLiteral_lines (hleast : 0 < least) (ht : Follows least t)
    (h : literalAllowed cs = true) (hcs : cs ≠ []) {lead v : List Char}
    (hsplit : endLine cs = lead ++ v) (hlead : ∀ c ∈ lead, isBreak c = true) (hv : IsLines v) :
    block least (endLine (writeLiteral (least + 1) cs) ++ t) = some (cs, Spot.next 0 t) := by
  obtain ⟨hstrip, hclip, hkeep⟩ := headerSigns_eq (needsIndentMark cs)
    (indented (least + 1) true (endLine cs) ++ t)
  rw [endLine_writeLiteral hcs, List.cons_append, List.append_assoc, List.cons_append]
  obtain ⟨w, hread, hindent⟩ := exists_read_lines (t := t) hleast h hcs hsplit hlead hv
  have hlength := length_le_length_indented (least + 1) v false
  have hpos : 0 < v.length := List.length_pos_of_ne_nil hv.full
  have hfull : indented (least + 1) false v ≠ [] := List.ne_nil_of_length_pos (by omega)
  have hs : (Spot.mk (least + 1) (indented (least + 1) false v ++ t)).column = least + 1 ∧
      (Spot.mk (least + 1) (indented (least + 1) false v ++ t)).rest ≠ [] :=
    ⟨rfl, List.append_ne_nil_of_left_ne_nil hfull t⟩
  have hfuel : v.length < (indented (least + 1) false v ++ t).length + 1 := by
    rw [List.length_append]
    omega
  obtain ⟨body, b, empty, heq, ⟨d, hd, hbody⟩, hb, hempty, hmore⟩ :=
    blockLines_eq (Nat.le_succ least) ht hv hfuel
  have hlast : ∀ e ∈ (lead ++ body).getLast?, isBreak e = false := by
    rw [List.getLast?_append, hd]
    rintro e ⟨⟩
    exact hbody
  have hbreaks : ∀ e ∈ b :: empty, isBreak e = true :=
    List.forall_mem_cons.mpr ⟨hb.isBreak, fun e he => (hempty e he).isBreak⟩
  have hends : endLine cs = lead ++ body ++ b :: empty := by
    rw [hsplit, heq, List.append_assoc]
  rcases chompMark_cases hcs hends hlast hbreaks with
    ⟨hmark, hsame, -⟩ | ⟨hmark, hsame, -⟩ | ⟨hmark, hsame⟩
  · rw [hmark, block_lines hstrip hread hindent hs hmore, ht.next_next, hsame, chomped,
      List.append_nil]
  · rw [hmark, block_lines hclip hread hindent hs hmore, ht.next_next, hsame, chomped]
  · rw [hmark, block_lines hkeep hread hindent hs hmore, ht.next_next, hsame, chomped]
    rfl

/-- **A text as a block of lines is read back.** -/
theorem block_writeLiteral (hleast : 0 < least) (ht : Follows least t)
    (h : literalAllowed cs = true) (hcs : cs ≠ []) :
    block least (endLine (writeLiteral (least + 1) cs) ++ t) = some (cs, Spot.next 0 t) := by
  obtain ⟨lead, v, hsplit, hlead, hstart⟩ := Chars.exists_split isBreak (endLine cs)
  by_cases hv : v = []
  · rw [hv, List.append_nil] at hsplit
    exact block_writeLiteral_empty hleast ht h hcs (hsplit ▸ hlead)
  · refine block_writeLiteral_lines hleast ht h hcs hsplit hlead
      ⟨hv, hstart, fun c hc => ?_, fun c hc => ?_⟩
    · refine isBreak_getLast?_endLine cs c ?_
      rwa [hsplit, List.getLast?_append_of_ne_nil lead hv]
    · exact isFeed_of_mem_endLine h (hsplit ▸ List.mem_append_right lead hc)

end Literal

end ReadScalar

end NodeBootstrap
