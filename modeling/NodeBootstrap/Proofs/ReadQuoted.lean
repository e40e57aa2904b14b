import NodeBootstrap.Proofs.Spots

/-!
# Reading quoted texts

Between quotes blanks are read as they stand, and so are the ends of lines that a writer leaves in a
text; what a writer escapes or doubles is read back.

* `Hex.readChar?_upperDigits`: a character by its number;
* `Scalar.escape_reads`: an escaped character;
* `ReadScalar.quotedBody_run`, `ReadScalar.quotedBody_feeds`: blanks, and ends of lines;
* **`ReadScalar.quoted_writeDouble`**, **`ReadScalar.quoted_writeSingle`**: a text between quotes is
  read back.
-/

namespace NodeBootstrap

open ReadScalar Scalar

/-! ## Characters by their numbers -/

namespace Hex

theorem value?_upperDigit {n : Nat} (h : n < 16) : value? (upperDigit n) = some n := by
  have hall : ∀ n < 16, value? (upperDigit n) = some n := by decide
  exact hall n h

theorem length_upperDigits (width n : Nat) : (upperDigits width n).length = width := by
  induction width generalizing n with
  | zero => rfl
  | succ width ih => simp [upperDigits, ih]

theorem readFrom?_append (start : Nat) (cs ds : List Char) :
    readFrom? start (cs ++ ds) = (readFrom? start cs).bind fun n => readFrom? n ds := by
  induction cs generalizing start with
  | nil => rfl
  | cons c cs ih =>
    rw [List.cons_append, readFrom?, readFrom?]
    rcases value? c with _ | d
    · rfl
    · exact ih _

theorem read?_upperDigits (width n : Nat) :
    read? (upperDigits width n) = some (n % Nat.pow 16 width) := by
  induction width generalizing n with
  | zero => simp [upperDigits, read?, readFrom?, Nat.mod_one]
  | succ width ih =>
    have hrest := ih (n / 16)
    rw [read?] at hrest ⊢
    have hdigit := value?_upperDigit (Nat.mod_lt n (show 16 > 0 by decide))
    have hpow : Nat.pow 16 (width + 1) = 16 * Nat.pow 16 width := Nat.mul_comm _ 16
    rw [upperDigits, readFrom?_append, hrest, hpow, Nat.mod_mul]
    simp [readFrom?, hdigit]
    omega

/-- A character is read by its number when there are digits enough for it. -/
theorem readChar?_upperDigits {width : Nat} {c : Char} (h : c.toNat < Nat.pow 16 width)
    (r : List Char) : readChar? width (upperDigits width c.toNat ++ r) = some (c, r) := by
  have hlength := length_upperDigits width c.toNat
  have hread : read? ((upperDigits width c.toNat ++ r).take width) = some c.toNat := by
    rw [List.take_left' hlength, read?_upperDigits, Nat.mod_eq_of_lt h]
  have hshort : ¬(upperDigits width c.toNat ++ r).length < width := by
    rw [List.length_append, hlength]
    omega
  have hvalid : c.toNat.isValidChar := c.valid
  simp [readChar?, hread, hvalid, List.drop_left' hlength]
  omega

end Hex

/-! ## Escaped characters -/

/-- A written character stands for itself, or it is an escape that is read back. -/
theorem Scalar.escape_reads (c : Char) :
    (escape c = [c] ∧ c ≠ '"' ∧ c ≠ '\\' ∧ c ≠ '\t' ∧ isBreak c = false) ∨
      ∃ e, escape c = '\\' :: e ∧ ∀ r, Chars.takeBreak? (e ++ r) = none ∧
        escape? (e ++ r) = some (c, r) := by
  unfold escape
  split
  case h_15 _ _ _ htab hfeed _ _ hreturn _ hquote hslash hnext hline hparagraph =>
    -- a character without an escape of its own is written as it is, or by its number
    have hnumber {mark : Char} {width : Nat} (hmark : ∀ r, Chars.takeBreak? (mark :: r) = none)
        (hescape : ∀ r, escape? (mark :: r) = Hex.readChar? width r)
        (hwidth : c.toNat < Nat.pow 16 width) (r : List Char) :
        Chars.takeBreak? (mark :: Hex.upperDigits width c.toNat ++ r) = none ∧
          escape? (mark :: Hex.upperDigits width c.toNat ++ r) = some (c, r) :=
      ⟨hmark _, (hescape _).trans (Hex.readChar?_upperDigits hwidth r)⟩
    split_ifs with hprint htwo hfour
    · have hbreak : isBreak c = false := by
        simp only [isBreak, Bool.or_eq_false_iff, beq_eq_false_iff_ne]
        exact ⟨⟨⟨⟨hfeed, hreturn⟩, hnext⟩, hline⟩, hparagraph⟩
      exact Or.inl ⟨rfl, hquote, hslash, htab, hbreak⟩
    · exact Or.inr ⟨_, rfl, hnumber (fun _ => rfl) (fun _ => rfl) (Nat.lt_succ_of_le htwo)⟩
    · exact Or.inr ⟨_, rfl, hnumber (fun _ => rfl) (fun _ => rfl) (Nat.lt_succ_of_le hfour)⟩
    · have hbound : c.toNat < 0x110000 := by
        rcases c.valid with h | h
        · exact Nat.lt_trans h (by decide)
        · exact h.2
      exact Or.inr ⟨_, rfl, hnumber (fun _ => rfl) (fun _ => rfl)
        (Nat.lt_trans hbound (by decide))⟩
  all_goals exact Or.inr ⟨_, rfl, fun r => ⟨rfl, rfl⟩⟩

namespace ReadScalar

/-! ## Steps of a reader between quotes -/

/-- A character that ends blanks between quotes. -/
def isWord (c : Char) : Bool := !isGap c && !isBreak c

section Steps

variable {quote c : Char} {fuel : Nat} {r ds r' : List Char}

theorem isGap_of_isWord (h : isWord c = true) : isGap c = false := by
  simp only [isWord, Bool.and_eq_true, Bool.not_eq_true'] at h
  exact h.1

theorem isBreak_of_isWord (h : isWord c = true) : isBreak c = false := by
  simp only [isWord, Bool.and_eq_true, Bool.not_eq_true'] at h
  exact h.2

/-- A character that stands for itself. -/
theorem quotedBody_word (hc : isWord c = true) (hquote : c ≠ quote)
    (hslash : quote = '"' → c ≠ '\\') (h : quotedBody quote fuel r = some (ds, r')) :
    quotedBody quote (fuel + 1) (c :: r) = some (c :: ds, r') := by
  have hescape : ¬(quote = '"' ∧ c = '\\') := fun ⟨hdouble, heq⟩ => hslash hdouble heq
  simp [quotedBody, hquote, hescape, isGap_of_isWord hc, isBreak_of_isWord hc, h]

/-- Blanks before a word. -/
theorem quotedBody_run {gap : List Char} (hne : gap ≠ []) (hgap : ∀ d ∈ gap, isGap d = true)
    (hquote : isGap quote = false) (hc : isWord c = true)
    (h : quotedBody quote fuel (c :: r) = some (ds, r')) :
    quotedBody quote (fuel + 1) (gap ++ c :: r) = some (gap ++ ds, r') := by
  have hhead : ∀ d ∈ (c :: r).head?, isGap d = false := by simp [isGap_of_isWord hc]
  have htake := Chars.takeWhile_run hgap hhead
  have hdrop := Chars.dropWhile_run hgap hhead
  have hbetween : between false (gap ++ c :: r) = some (gap, c :: r) := by
    simp [between, htake, hdrop, isBreak_of_isWord hc]
  obtain ⟨d, gap, rfl⟩ := List.exists_cons_of_ne_nil hne
  have hd : isGap d = true := hgap d (List.mem_cons_self ..)
  have hdquote : d ≠ quote := by
    rintro rfl
    simp [hd] at hquote
  rw [List.cons_append] at hbetween ⊢
  simp [quotedBody, hdquote, hd, hbetween, h]

/-- Separators before a word that is moved in. -/
theorem quotedBody_feeds {n : Nat} (hn : 0 < n) {feeds : List Char} (hne : feeds ≠ [])
    (hfeeds : ∀ d ∈ feeds, IsSeparator d) (hquote : isBreak quote = false) (hc : isWord c = true)
    (h : quotedBody quote fuel (c :: r) = some (ds, r')) :
    quotedBody quote (fuel + 1) (feeds ++ (spaces n ++ c :: r)) = some (feeds ++ ds, r') := by
  have hskip : Lines.skip 0 0 (feeds ++ (spaces n ++ c :: r)) = some (feeds, ⟨n, c :: r⟩) := by
    rw [Lines.skip_feeds (fun d hd => Or.inr (hfeeds d hd)) hne,
      Lines.skip_spaces (isGap_of_isWord hc) (isBreak_of_isWord hc)]
    simp
  obtain ⟨d, feeds, rfl⟩ := List.exists_cons_of_ne_nil hne
  have hd : IsSeparator d := hfeeds d (List.mem_cons_self ..)
  have hbreak : isBreak d = true := IsFeed.isBreak (Or.inr hd)
  have hgap : isGap d = false := by rcases hd with rfl | rfl <;> decide
  have hfold : Lines.fold (d :: feeds) = d :: feeds := by rcases hd with rfl | rfl <;> rfl
  have hmark : (Spot.mk n (c :: r)).isMark = false := by
    have hn' : (n == 0) = false := beq_eq_false_iff_ne.mpr (by omega)
    simp [Spot.isMark, hn']
  rw [List.cons_append] at hskip ⊢
  have hbetween : between false (d :: (feeds ++ (spaces n ++ c :: r))) =
      some (d :: feeds, c :: r) := by
    simp [between, hgap, hbreak, hskip, hmark, hfold]
  have hdquote : d ≠ quote := by
    rintro rfl
    simp [hbreak] at hquote
  simp [quotedBody, hdquote, hbreak, hbetween, h]

end Steps

/-! ## Between double quotes -/

/-- What is written between double quotes begins with an escape, or as the text does. -/
theorem exists_head_escaped (cs t : List Char) (h : ∀ c ∈ cs.head?, c ≠ ' ') :
    ∃ c r, cs.flatMap escape ++ '"' :: t = c :: r ∧ isWord c = true := by
  rcases cs with _ | ⟨c, cs⟩
  · exact ⟨'"', t, rfl, by decide⟩
  · rcases escape_reads c with ⟨heq, -, -, htab, hbreak⟩ | ⟨e, heq, -⟩
    · refine ⟨c, cs.flatMap escape ++ '"' :: t, by simp [heq], ?_⟩
      simp [isWord, isGap, h c rfl, htab, hbreak]
    · exact ⟨'\\', e ++ (cs.flatMap escape ++ '"' :: t), by simp [heq], by decide⟩

theorem flatMap_escape_spaces {gap : List Char} (h : ∀ c ∈ gap, isSpace c = true) :
    gap.flatMap escape = gap := by
  induction gap with
  | nil => rfl
  | cons c gap ih =>
    obtain ⟨hc, hgap⟩ := List.forall_mem_cons.mp h
    obtain rfl : c = ' ' := by simpa [isSpace] using hc
    rw [List.flatMap_cons, ih hgap]
    rfl

theorem quotedBody_double {fuel : Nat} {cs : List Char} (t : List Char)
    (hfuel : (cs.flatMap escape).length < fuel) :
    quotedBody '"' fuel (cs.flatMap escape ++ '"' :: t) = some (cs, t) := by
  induction fuel generalizing cs with
  | zero => omega
  | succ fuel ih =>
    rcases cs with _ | ⟨c, cs⟩
    · rcases t with _ | ⟨d, t⟩ <;> simp [quotedBody]
    · by_cases hspace : c = ' '
      · obtain ⟨gap, rest, heq, hne, hgap, hrest⟩ := Chars.exists_run (p := isSpace)
          (List.cons_ne_nil c cs) (by simpa [isSpace] using hspace)
        obtain ⟨d, r, hhead, hd⟩ := exists_head_escaped rest t fun d hd => by
          simpa [isSpace] using hrest d hd
        have hlength := List.length_pos_of_ne_nil hne
        rw [heq, List.flatMap_append, flatMap_escape_spaces hgap] at hfuel ⊢
        rw [List.length_append] at hfuel
        have hread : quotedBody '"' fuel (rest.flatMap escape ++ '"' :: t) = some (rest, t) :=
          ih (by omega)
        rw [hhead] at hread
        rw [List.append_assoc, hhead]
        exact quotedBody_run hne (fun d hd => isGap_of_isSpace (hgap d hd)) (by decide) hd hread
      · rcases escape_reads c with ⟨heq, hquote, hslash, htab, hbreak⟩ | ⟨e, heq, hread⟩
        · have hword : isWord c = true := by simp [isWord, isGap, hspace, htab, hbreak]
          rw [List.flatMap_cons, heq] at hfuel ⊢
          simp only [List.length_append, List.length_singleton] at hfuel
          exact quotedBody_word hword hquote (fun _ => hslash) (ih (by omega))
        · obtain ⟨hplain, hescape⟩ := hread (cs.flatMap escape ++ '"' :: t)
          rw [List.flatMap_cons, heq] at hfuel ⊢
          simp only [List.length_append, List.length_cons] at hfuel
          have hrest : quotedBody '"' fuel (cs.flatMap escape ++ '"' :: t) = some (cs, t) :=
            ih (by omega)
          simp [quotedBody, isGap, isBreak, hplain, hescape, hrest]

/-- **A text between double quotes is read back.** -/
theorem quoted_writeDouble (cs t : List Char) : quoted (writeDouble cs ++ t) = some (cs, t) := by
  have hfuel : (cs.flatMap escape).length < (cs.flatMap escape ++ ['"'] ++ t).length + 1 := by
    simp only [List.length_append]
    omega
  have hread := quotedBody_double t hfuel
  simpa [quoted, writeDouble] using hread

end ReadScalar

/-! ## Between single quotes -/

namespace Scalar

theorem doubleQuotes_append (cs ds : List Char) :
    doubleQuotes (cs ++ ds) = doubleQuotes cs ++ doubleQuotes ds := by
  fun_induction doubleQuotes cs with
  | case1 => rfl
  | case2 cs ih => simp [doubleQuotes, ih]
  | case3 c cs _ ih => simp [doubleQuotes, ih]

theorem doubleQuotes_of_not_mem {cs : List Char} (h : '\'' ∉ cs) : doubleQuotes cs = cs := by
  fun_induction doubleQuotes cs with
  | case1 => rfl
  | case2 cs ih => simp at h
  | case3 c cs hc ih => rw [ih (mt (List.mem_cons_of_mem c) h)]

theorem length_le_length_doubleQuotes (cs : List Char) :
    cs.length ≤ (doubleQuotes cs).length := by
  fun_induction doubleQuotes cs with
  | case1 => exact Nat.le_refl 0
  | case2 cs ih =>
    simp only [List.length_cons]
    omega
  | case3 c cs _ ih =>
    simp only [List.length_cons]
    omega

theorem getLast?_doubleQuotes (cs : List Char) : (doubleQuotes cs).getLast? = cs.getLast? := by
  fun_induction doubleQuotes cs with
  | case1 => rfl
  | case2 cs ih => simp [List.getLast?_cons, ih]
  | case3 c cs hc ih => simp [List.getLast?_cons, ih]

/-- A last character is moved in when it begins a line. -/
theorem indented_concat (n : Nat) {c : Char} (hc : isBreak c = false) (fresh : Bool)
    (cs : List Char) : indented n fresh (cs ++ [c]) = indented n fresh cs ++
      (if (cs.getLast?.map isBreak).getD fresh then spaces n else []) ++ [c] := by
  induction cs generalizing fresh with
  | nil => cases fresh <;> simp [indented, hc]
  | cons d cs ih =>
    have hlast (fresh : Bool) : ((d :: cs).getLast?.map isBreak).getD fresh =
        (cs.getLast?.map isBreak).getD (isBreak d) := by
      rw [List.getLast?_cons]
      rcases cs.getLast? with _ | e
      · rfl
      · rfl
    rw [List.cons_append, indented, indented, hlast]
    cases hd : isBreak d with
    | true => simp [ih]
    | false => simp [ih]

/-- The closing quote stands like a character of the text. -/
theorem writeSingle_eq (n : Nat) (cs : List Char) :
    writeSingle n cs = '\'' :: indented n false (doubleQuotes cs ++ ['\'']) := by
  rw [indented_concat n (by decide), getLast?_doubleQuotes]
  unfold writeSingle
  rcases cs.getLast? with _ | c
  · rfl
  · rfl

end Scalar

/-- A text that may stand between single quotes, without line feeds. -/
structure Quotable (cs : List Char) : Prop where
  chars : ∀ c ∈ cs, c ≠ '\t' ∧ (isBreak c = true → IsSeparator c)
  after : adjacent isBreak isSpace cs = false
  before : adjacent isSpace isBreak cs = false

namespace Quotable

variable {cs : List Char}

theorem of_singleAllowed (h : singleAllowed cs = true) (hfeed : '\n' ∉ cs) : Quotable cs := by
  simp only [singleAllowed, Bool.and_eq_true, Bool.not_eq_true', List.all_eq_true] at h
  refine ⟨fun c hc => ⟨?_, fun hbreak => ?_⟩, h.1.2, h.2⟩
  · rintro rfl
    exact absurd (h.1.1 _ hc) (by decide)
  · rcases eq_newline_or_isSeparator (h.1.1 c hc) hbreak with rfl | hseparator
    · exact absurd hc hfeed
    · exact hseparator

theorem suffix {front : List Char} (h : Quotable (front ++ cs)) : Quotable cs :=
  ⟨fun c hc => h.chars c (List.mem_append_right front hc), adjacent_suffix h.after,
    adjacent_suffix h.before⟩

/-- What is written for a text that begins with a word begins with its first character. -/
theorem exists_head (h : Quotable cs) (hstart : ∀ c ∈ cs.head?, c ≠ ' ' ∧ isBreak c = false) :
    ∃ c r, doubleQuotes cs ++ ['\''] = c :: r ∧ ReadScalar.isWord c = true := by
  rcases cs with _ | ⟨c, cs⟩
  · exact ⟨'\'', [], rfl, by decide⟩
  · obtain ⟨hspace, hbreak⟩ := hstart c rfl
    have htab := (h.chars c (List.mem_cons_self ..)).1
    refine ⟨c, (doubleQuotes (c :: cs) ++ ['\'']).tail, ?_, by
      simp [ReadScalar.isWord, isGap, hspace, htab, hbreak]⟩
    by_cases hquote : c = '\''
    · rw [hquote]
      rfl
    · simp [doubleQuotes]

theorem isBreak_after_spaces {gap rest : List Char} (h : Quotable (gap ++ rest)) (hne : gap ≠ [])
    (hgap : ∀ c ∈ gap, isSpace c = true) : ∀ c ∈ rest.head?, isBreak c = false := by
  rcases rest with _ | ⟨c, r⟩
  · simp
  · rintro d ⟨⟩
    exact adjacent_run h.before hne hgap

theorem isSpace_after_breaks {feeds rest : List Char} (h : Quotable (feeds ++ rest))
    (hne : feeds ≠ []) (hfeeds : ∀ c ∈ feeds, isBreak c = true) :
    ∀ c ∈ rest.head?, isSpace c = false := by
  rcases rest with _ | ⟨c, r⟩
  · simp
  · rintro d ⟨⟩
    exact adjacent_run h.after hne hfeeds

end Quotable

namespace ReadScalar

/-- What a text is written as between single quotes, with the closing quote. -/
def singleBody (n : Nat) (cs : List Char) : List Char :=
  indented n false (doubleQuotes cs ++ ['\''])

section SingleBody

variable {n : Nat} {c : Char} {cs : List Char}

theorem singleBody_of_head {r : List Char} (hhead : doubleQuotes cs ++ ['\''] = c :: r)
    (hc : isWord c = true) : singleBody n cs = c :: indented n false r := by
  rw [singleBody, hhead, indented, isBreak_of_isWord hc]
  rfl

theorem singleBody_quote (n : Nat) (cs : List Char) :
    singleBody n ('\'' :: cs) = '\'' :: '\'' :: singleBody n cs := by
  simp [singleBody, doubleQuotes, indented, isBreak]

theorem singleBody_cons (hquote : c ≠ '\'') (hbreak : isBreak c = false) :
    singleBody n (c :: cs) = c :: singleBody n cs := by
  simp [singleBody, doubleQuotes, indented, hbreak]

theorem singleBody_spaces {gap : List Char} (h : ∀ c ∈ gap, isSpace c = true) :
    singleBody n (gap ++ cs) = gap ++ singleBody n cs := by
  induction gap with
  | nil => rfl
  | cons c gap ih =>
    obtain ⟨hc, hgap⟩ := List.forall_mem_cons.mp h
    obtain rfl : c = ' ' := by simpa [isSpace] using hc
    rw [List.cons_append, singleBody_cons (by decide) (by decide), ih hgap]
    rfl

theorem singleBody_feeds {feeds : List Char} (hne : feeds ≠ [])
    (hfeeds : ∀ c ∈ feeds, isBreak c = true) {d : Char} {r : List Char}
    (hhead : doubleQuotes cs ++ ['\''] = d :: r) (hd : isBreak d = false) :
    singleBody n (feeds ++ cs) = feeds ++ (spaces n ++ singleBody n cs) := by
  have hquotes : '\'' ∉ feeds := fun hmem => absurd (hfeeds _ hmem) (by decide)
  rw [singleBody, doubleQuotes_append, doubleQuotes_of_not_mem hquotes, List.append_assoc,
    indented_breaks hne hfeeds, hhead, indented_fresh hd, ← hhead]
  rfl

theorem length_le_length_singleBody (n : Nat) (cs : List Char) :
    cs.length ≤ (singleBody n cs).length := by
  have hquotes := length_le_length_doubleQuotes cs
  have hlength := length_le_length_indented n (doubleQuotes cs ++ ['\'']) false
  rw [List.length_append] at hlength
  rw [singleBody]
  omega

end SingleBody

section Single

variable {n fuel : Nat} {rest t : List Char}

/-- Blanks in a text between single quotes. -/
theorem quotedBody_single_spaces {gap : List Char} (h : Quotable (gap ++ rest)) (hne : gap ≠ [])
    (hgap : ∀ c ∈ gap, isSpace c = true) (hrest : ∀ c ∈ rest.head?, isSpace c = false)
    (hread : quotedBody '\'' fuel (singleBody n rest ++ t) = some (rest, t)) :
    quotedBody '\'' (fuel + 1) (singleBody n (gap ++ rest) ++ t) = some (gap ++ rest, t) := by
  have hbreaks := h.isBreak_after_spaces hne hgap
  obtain ⟨d, r, hhead, hd⟩ := h.suffix.exists_head fun d hd =>
    ⟨by simpa [isSpace] using hrest d hd, hbreaks d hd⟩
  have hbody := singleBody_of_head (n := n) hhead hd
  rw [hbody] at hread
  rw [singleBody_spaces hgap, hbody, List.append_assoc]
  exact quotedBody_run hne (fun d hd => isGap_of_isSpace (hgap d hd)) (by decide) hd hread

/-- Separators in a text between single quotes. -/
theorem quotedBody_single_breaks {feeds : List Char} (hn : 0 < n) (h : Quotable (feeds ++ rest))
    (hne : feeds ≠ []) (hfeeds : ∀ c ∈ feeds, isBreak c = true)
    (hrest : ∀ c ∈ rest.head?, isBreak c = false)
    (hread : quotedBody '\'' fuel (singleBody n rest ++ t) = some (rest, t)) :
    quotedBody '\'' (fuel + 1) (singleBody n (feeds ++ rest) ++ t) = some (feeds ++ rest, t) := by
  have hspaces := h.isSpace_after_breaks hne hfeeds
  obtain ⟨d, r, hhead, hd⟩ := h.suffix.exists_head fun d hd =>
    ⟨by simpa [isSpace] using hspaces d hd, hrest d hd⟩
  have hbody := singleBody_of_head (n := n) hhead hd
  have hseparators : ∀ c ∈ feeds, IsSeparator c := fun c hc =>
    (h.chars c (List.mem_append_left rest hc)).2 (hfeeds c hc)
  rw [hbody] at hread
  rw [singleBody_feeds hne hfeeds hhead (isBreak_of_isWord hd), hbody, List.append_assoc,
    List.append_assoc]
  exact quotedBody_feeds hn hne hseparators (by decide) hd hread

/-- A text is read up to its closing quote: a run of blanks, a run of separators, or one character
at a time. -/
theorem quotedBody_single (hn : 0 < n) {cs : List Char} (ht : ∀ c ∈ t.head?, c ≠ '\'')
    (h : Quotable cs) (hfuel : cs.length < fuel) :
    quotedBody '\'' fuel (singleBody n cs ++ t) = some (cs, t) := by
  induction fuel generalizing cs with
  | zero => omega
  | succ fuel ih =>
    rcases cs with _ | ⟨c, cs⟩
    · rcases t with _ | ⟨d, t⟩
      · rfl
      · have hd : d ≠ '\'' := ht d rfl
        simp [singleBody, doubleQuotes, indented, isBreak, quotedBody, hd]
    · have hfull := List.cons_ne_nil c cs
      by_cases hspace : isSpace c = true
      · obtain ⟨gap, rest, heq, hne, hgap, hrest⟩ :=
          Chars.exists_run (p := isSpace) hfull (by simpa using hspace)
        have hlength := List.length_pos_of_ne_nil hne
        rw [heq] at h hfuel ⊢
        rw [List.length_append] at hfuel
        exact quotedBody_single_spaces h hne hgap hrest (ih h.suffix (by omega))
      by_cases hbreak : isBreak c = true
      · obtain ⟨feeds, rest, heq, hne, hfeeds, hrest⟩ :=
          Chars.exists_run (p := isBreak) hfull (by simpa using hbreak)
        have hlength := List.length_pos_of_ne_nil hne
        rw [heq] at h hfuel ⊢
        rw [List.length_append] at hfuel
        exact quotedBody_single_breaks hn h hne hfeeds hrest (ih h.suffix (by omega))
      have htab := (h.chars c (List.mem_cons_self ..)).1
      have hcs : Quotable cs := Quotable.suffix (show Quotable ([c] ++ cs) from h)
      rw [List.length_cons] at hfuel
      have hread := ih hcs (by omega)
      rw [Bool.not_eq_true] at hspace hbreak
      by_cases hquote : c = '\''
      · rw [hquote, singleBody_quote]
        simp [quotedBody, hread]
      · have hblank : c ≠ ' ' := by simpa [isSpace] using hspace
        have hword : isWord c = true := by simp [isWord, isGap, hblank, htab, hbreak]
        rw [singleBody_cons hquote hbreak]
        exact quotedBody_word hword hquote (by simp) hread

/-- **A text between single quotes is read back.** -/
theorem quoted_writeSingle (hn : 0 < n) {cs : List Char} (ht : ∀ c ∈ t.head?, c ≠ '\'')
    (h : Quotable cs) : quoted (writeSingle n cs ++ t) = some (cs, t) := by
  have hlength := length_le_length_singleBody n cs
  have hfuel : cs.length < (singleBody n cs ++ t).length + 1 := by
    rw [List.length_append]
    omega
  have hread := quotedBody_single hn ht h hfuel
  rw [writeSingle_eq]
  simpa [quoted, singleBody] using hread

end Single

end ReadScalar

end NodeBootstrap
