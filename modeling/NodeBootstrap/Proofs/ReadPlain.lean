import NodeBootstrap.Proofs.Spots

/-!
# Reading bare texts

A text that may stand bare is read to the end of its line, and a key up to its colon.

* `Bare`: what keeps a text together between its first character and the end of its line;
* `Bare.plainWord_eq`, `Bare.plainMore_eq`: a word of the text, and the words after it;
* **`ReadScalar.plain_eq`**: the whole text is read, on one line;
* **`Yaml.readKey_key`**: a key is read with what follows its colon.
-/

namespace NodeBootstrap

open ReadScalar Scalar Yaml

/-! ## Words -/

section Words

variable {context : Context} {least : Option Nat}

/-- The end of the line ends the text when no further line belongs to it. -/
theorem plainMore_newline {t : List Char} (hends : ∀ l ∈ least, Follows l t) (fuel : Nat) :
    plainMore .block least (fuel + 1) ('\n' :: t) = some ([], '\n' :: t) := by
  have hgap : isGap '\n' = false := by decide
  have hbreak : isBreak '\n' = true := by decide
  rcases least with _ | l
  · simp [plainMore, hgap, hbreak]
  · have hfollows := hends l rfl
    have hskip : Lines.skip l 0 ('\n' :: t) = some (['\n'], Spot.next 0 t) := by
      have hfeeds : Lines.skip l 0 (['\n'] ++ t) = _ :=
        Lines.skip_feeds (by simp [IsFeed]) (by simp) 0 t
      rwa [hfollows.skip_eq] at hfeeds
    rcases hfollows.before with h | h
    · simp [plainMore, hgap, hbreak, hskip, h]
    · simp [plainMore, hgap, hbreak, hskip, h]

/-- Blanks before a further word belong to the text. -/
theorem plainMore_gap {fuel : Nat} {gap r word rest ws rest' : List Char} {c : Char}
    (hne : gap ≠ []) (hgap : ∀ d ∈ gap, isGap d = true) (hc : isSolid c = true)
    (hword : plainWord context (c :: r) = some (word, rest)) (hfull : word ≠ [])
    (hmore : plainMore context least fuel rest = some (ws, rest')) :
    plainMore context least (fuel + 1) (gap ++ c :: r) = some (gap ++ word ++ ws, rest') := by
  have hhead : ∀ d ∈ (c :: r).head?, isGap d = false := by simp [isGap_of_isSolid hc]
  have htake := Chars.takeWhile_run hgap hhead
  have hdrop := Chars.dropWhile_run hgap hhead
  obtain ⟨d, ds, rfl⟩ := List.exists_cons_of_ne_nil hfull
  simp only [plainMore, htake, hdrop]
  simp [isBreak_of_isSolid hc, ne_hash_of_isSolid hc, hne, hword, hmore]

end Words

/-! ## Texts on one line -/

/-- A text on one line in which no sign ends a bare text. -/
structure Bare (w : List Char) : Prop where
  line : ∀ c ∈ w, c ≠ '\t' ∧ isBreak c = false
  colons : adjacent (· == ':') isSpace w = false
  hashes : adjacent isSpace (· == '#') w = false
  notColon : w.getLast? ≠ some ':'
  notSpace : w.getLast? ≠ some ' '

namespace Bare

variable {w : List Char} {c d : Char}

theorem nil : Bare [] := ⟨by simp, rfl, rfl, by simp, by simp⟩

theorem tail (h : Bare (c :: w)) : Bare w := by
  rcases w with _ | ⟨d, w⟩
  · exact nil
  · exact ⟨fun e he => h.line e (List.mem_cons_of_mem c he), adjacent_tail h.colons,
      adjacent_tail h.hashes,
      fun hlast => h.notColon (by rwa [List.getLast?_cons_cons]),
      fun hlast => h.notSpace (by rwa [List.getLast?_cons_cons])⟩

theorem isGap_eq (h : Bare (c :: w)) : isGap c = isSpace c := by
  have htab : (c == '\t') = false := beq_eq_false_iff_ne.mpr (h.line c (List.mem_cons_self ..)).1
  rw [isGap, htab, Bool.or_false, isSpace]

theorem isBreak_head (h : Bare (c :: w)) : isBreak c = false := (h.line c (List.mem_cons_self ..)).2

/-- A colon inside the text stands before a character of the same word. -/
theorem startsBlank_colon (h : Bare (':' :: w)) (t : List Char) : startsBlank (w ++ t) = false := by
  rcases w with _ | ⟨d, w⟩
  · exact absurd rfl h.notColon
  · have hcolons := h.colons
    simp only [adjacent, beq_self_eq_true, Bool.true_and, Bool.or_eq_false_iff] at hcolons
    rw [List.cons_append, startsBlank, h.tail.isGap_eq, hcolons.1, h.tail.isBreak_head]
    rfl

/-- A character that is not a blank. -/
def isInk (c : Char) : Bool := !isSpace c

/-- The first word of the text. -/
theorem plainWord_eq (h : Bare w) (t : List Char) :
    plainWord .block (w ++ '\n' :: t) =
      some (w.takeWhile isInk, w.dropWhile isInk ++ '\n' :: t) := by
  induction w with
  | nil => rfl
  | cons c w ih =>
    cases hc : isSpace c with
    | true => simp [plainWord, h.isGap_eq, hc, isInk]
    | false =>
      have hcolon : ¬(c = ':' ∧ startsBlank (w ++ '\n' :: t) = true) := by
        rintro ⟨rfl, hblank⟩
        rw [h.startsBlank_colon] at hblank
        cases hblank
      simp [plainWord, h.isGap_eq, hc, h.isBreak_head, hcolon, ih h.tail, isInk]

theorem suffix {front : List Char} (h : Bare (front ++ w)) : Bare w := by
  induction front with
  | nil => exact h
  | cons c front ih => exact ih h.tail

/-- A text that begins with a blank is blanks and, after them, what does not begin with one. -/
theorem exists_gap (h : Bare w) (hstart : ∀ c ∈ w.head?, isSpace c = true) (hne : w ≠ []) :
    ∃ gap c r, w = gap ++ c :: r ∧ gap ≠ [] ∧ (∀ d ∈ gap, isSpace d = true) ∧ isSolid c = true := by
  obtain ⟨gap, rest, rfl, hfull, hgap, hrest⟩ := Chars.exists_run hne hstart
  rcases rest with _ | ⟨c, r⟩
  · rw [List.append_nil] at h
    have hlast : gap.getLast hfull = ' ' := by simpa [isSpace] using hgap _ (List.getLast_mem hfull)
    exact absurd (by rw [List.getLast?_eq_some_getLast hfull, hlast]) h.notSpace
  · refine ⟨gap, c, r, rfl, hfull, hgap, ?_⟩
    have hhash : (c == '#') = false :=
      adjacent_run (q := (· == '#')) h.hashes hfull hgap
    simp [isSolid, h.suffix.isGap_eq, hrest c rfl, h.suffix.isBreak_head, bne, hhash]

/-- Blanks and the words after them, up to the end of the line. -/
theorem plainMore_eq {t : List Char} {least : Option Nat} (hends : ∀ l ∈ least, Follows l t)
    {fuel : Nat} (hfuel : w.length < fuel) (h : Bare w) (hstart : ∀ c ∈ w.head?, isSpace c = true) :
    plainMore .block least fuel (w ++ '\n' :: t) = some (w, '\n' :: t) := by
  induction fuel generalizing w with
  | zero => omega
  | succ fuel ih =>
    by_cases hne : w = []
    · rw [hne]
      exact plainMore_newline hends fuel
    · obtain ⟨gap, c, r, rfl, hfull, hgap, hc⟩ := h.exists_gap hstart hne
      have hbare : Bare (c :: r) := h.suffix
      have hink : isInk c = true := by simp [isInk, isSpace, ne_space_of_isSolid hc]
      have hrest : Bare ((c :: r).dropWhile isInk) := by
        have hsplit := List.takeWhile_append_dropWhile (p := isInk) (l := c :: r)
        exact suffix (hsplit.symm ▸ hbare)
      have hmore : plainMore .block least fuel ((c :: r).dropWhile isInk ++ '\n' :: t) =
          some ((c :: r).dropWhile isInk, '\n' :: t) := by
        refine ih ?_ hrest fun d hd => ?_
        · have hlength := (List.dropWhile_suffix isInk (l := r)).length_le
          have hgapLength := List.length_pos_of_ne_nil hfull
          rw [List.dropWhile_cons_of_pos hink]
          simp only [List.length_append, List.length_cons] at hfuel
          omega
        · have hdropped := List.head?_dropWhile_not isInk (c :: r)
          rw [hd] at hdropped
          simpa [isInk] using hdropped
      have hread := plainMore_gap (r := r ++ '\n' :: t) hfull
        (fun d hd => isGap_of_isSpace (hgap d hd)) hc (hbare.plainWord_eq t)
        (by simp [List.takeWhile_cons_of_pos hink]) hmore
      rw [List.append_assoc, List.cons_append, hread, List.append_assoc,
        List.takeWhile_append_dropWhile]

end Bare

/-! ## Whole texts -/

/-- A text that may stand bare is bare, and it begins with a character that stands for itself. -/
theorem Scalar.bare_of_plainAllowed {w : List Char} (h : plainAllowed w = true) : Bare w := by
  simp only [plainAllowed, badInside, Bool.and_eq_true, Bool.not_eq_true', Bool.or_eq_false_iff,
    List.any_eq_false, List.all_eq_true, bne_iff_ne, beq_eq_false_iff_ne] at h
  obtain ⟨⟨⟨⟨⟨hprint, hline⟩, -⟩, hspace⟩, -⟩, ⟨hcolons, hhashes⟩, hcolon⟩ := h
  refine ⟨fun c hc => ⟨?_, by simpa using hline c hc⟩, hcolons, hhashes, hcolon, hspace⟩
  rintro rfl
  exact absurd (hprint _ hc) (by decide)

/-- The first character of a text that may stand bare. -/
theorem Scalar.exists_start_of_plainAllowed {w : List Char} (h : plainAllowed w = true) :
    ∃ c r, w = c :: r ∧ isSolid c = true ∧ indicators.contains c = false ∧
      (c = '-' ∨ c = '?' ∨ c = ':' → ∀ t, startsBlank (r ++ t) = false) := by
  have hbare := bare_of_plainAllowed h
  simp only [plainAllowed, Bool.and_eq_true, Bool.not_eq_true', bne_iff_ne] at h
  obtain ⟨⟨⟨⟨-, hspace⟩, -⟩, hstart⟩, -⟩ := h
  rcases w with _ | ⟨c, r⟩
  · simp [badStart] at hstart
  · simp only [badStart, Bool.or_eq_false_iff] at hstart
    obtain ⟨⟨⟨hsign, hdash⟩, -⟩, -⟩ := hstart
    refine ⟨c, r, rfl, ?_, hsign, fun hc t => ?_⟩
    · have hgap : isSpace c = false := by simpa [isSpace] using hspace
      have hhash : c ≠ '#' := by
        rintro rfl
        exact absurd hsign (by decide)
      simp [isSolid, hbare.isGap_eq, hgap, hbare.isBreak_head, hhash]
    · rcases r with _ | ⟨d, r⟩
      · rcases hc with rfl | rfl | rfl <;> simp at hdash
      · have hgap : isSpace d = false := by
          rcases hc with rfl | rfl | rfl <;> simpa [isSpace] using hdash
        rw [List.cons_append, startsBlank, hbare.tail.isGap_eq, hgap, hbare.tail.isBreak_head]
        rfl

namespace ReadScalar

/-- A text that may stand bare may begin a text without quotes. -/
theorem plainStart_of_plainAllowed {w : List Char} (h : plainAllowed w = true) (t : List Char) :
    plainStart .block (w ++ t) = true := by
  obtain ⟨c, r, rfl, hc, hsign, hmark⟩ := exists_start_of_plainAllowed h
  have hgap := isGap_of_isSolid hc
  have hbreak := isBreak_of_isSolid hc
  rw [List.cons_append]
  by_cases hdash : c = '-'
  · have hblank := hmark (Or.inl hdash) t
    generalize r ++ t = u at hblank ⊢
    rcases u with _ | ⟨d, ds⟩
    · cases hblank
    · simp only [startsBlank, Bool.or_eq_false_iff] at hblank
      rw [hdash]
      simpa [plainStart, isGap, isBreak] using hblank.1
  · by_cases hother : c = '?' ∨ c = ':'
    · simp [plainStart, hgap, hbreak, hdash, hother, hmark (Or.inr hother) t]
    · have hsigns : ∀ d ∈ indicators, c ≠ d := by
        rintro d hd rfl
        exact absurd hsign (by simpa using hd)
      simp [indicators] at hsigns
      simp [plainStart, hgap, hbreak, hdash, hother, isFlowSign, hsigns]

/-- **A text that may stand bare is read to the end of its line.** -/
theorem plain_eq {w t : List Char} {least : Option Nat} (h : plainAllowed w = true)
    (hends : ∀ l ∈ least, Follows l t) :
    plain .block least (w ++ '\n' :: t) = some (w, '\n' :: t) := by
  have hbare := bare_of_plainAllowed h
  have hsplit := List.takeWhile_append_dropWhile (p := Bare.isInk) (l := w)
  have hfuel : (w.dropWhile Bare.isInk).length <
      (w.dropWhile Bare.isInk ++ '\n' :: t).length + 1 := by
    rw [List.length_append]
    omega
  have hmore := Bare.plainMore_eq hends hfuel
    (Bare.suffix (hsplit.symm ▸ hbare)) fun c hc => by
      have hdropped := List.head?_dropWhile_not Bare.isInk w
      rw [hc] at hdropped
      simpa [Bare.isInk] using hdropped
  simp only [plain, plainStart_of_plainAllowed h, hbare.plainWord_eq, if_true, Option.bind_eq_bind,
    Option.bind_some, hmore, hsplit]
  rfl

end ReadScalar

/-! ## Keys -/

namespace Yaml

open ReadFlow

/-- Nothing stands before a part that begins with neither a name nor a type. -/
theorem properties_of_ne {c : Char} (hname : c ≠ '&') (htype : c ≠ '!') (r : List Char) :
    properties (c :: r) = some ({}, c :: r) := by
  have hproperty (p : Properties) : property p (c :: r) = some (p, c :: r) := by
    unfold property
    split
    · next heq => exact absurd (List.cons.inj heq).1 hname
    · next heq => exact absurd (List.cons.inj heq).1 htype
    · rfl
  simp [properties, hproperty, Properties.none?]

/-- Quotes, brackets and references begin with signs of their own. -/
theorem readFlat_eq_none {c : Char} (p : Properties)
    (h : ∀ d ∈ ['*', '"', '\'', '[', '\x7b'], c ≠ d) (r : List Char) :
    readFlat p (c :: r) = none := by
  simp only [List.forall_mem_cons] at h
  obtain ⟨hstar, hdouble, hsingle, hbracket, hbrace, -⟩ := h
  simp [readFlat, hdouble, hsingle, hbracket, hbrace]

/-- The characters of a key belong to one word. -/
theorem plainWord_key {cs : List Char} (h : ∀ c ∈ cs, isNameChar c = true) {v : List Char}
    (hv : startsBlank v = true) :
    plainWord .block (cs ++ ':' :: v) = some (cs, ':' :: v) := by
  induction cs with
  | nil => simp [plainWord, isGap, isBreak, hv]
  | cons c cs ih =>
    obtain ⟨hc, hcs⟩ := List.forall_mem_cons.mp h
    have hsolid := isSolid_of_isNameChar hc
    have hcolon : c ≠ ':' := by
      rintro rfl
      exact absurd hc (by decide)
    simp [plainWord, isGap_of_isSolid hsolid, isBreak_of_isSolid hsolid, hcolon, ih hcs]

theorem ne_of_isLetter {c : Char} (h : isLetter c = true) {ds : List Char}
    (hds : ds.all (fun d => !isLetter d) = true) : ∀ d ∈ ds, c ≠ d := by
  rintro d hd rfl
  exact absurd h (by simpa using List.all_eq_true.mp hds c hd)

section Key

variable {k : String} {v : List Char}

theorem plain_key (h : isKey k = true) (hv : startsBlank v = true) :
    plain .block none (k.toList ++ ':' :: v) = some (k.toList, ':' :: v) := by
  obtain ⟨c, cs, heq, hc, hcs, -⟩ := exists_key_eq h
  have hname : ∀ d ∈ k.toList, isNameChar d = true := by
    rw [heq]
    exact List.forall_mem_cons.mpr ⟨isNameChar_of_isLetter hc, hcs⟩
  have hstart : plainStart .block (k.toList ++ ':' :: v) = true := by
    have hsigns : ∀ d ∈ ['-', '?', ':'] ++ indicators, c ≠ d := ne_of_isLetter hc (by decide)
    simp only [indicators, List.cons_append, List.nil_append, List.forall_mem_cons] at hsigns
    have hsolid := isSolid_of_isLetter hc
    rw [heq, List.cons_append, plainStart.eq_def]
    simp [isGap_of_isSolid hsolid, isBreak_of_isSolid hsolid, hsigns, isFlowSign]
  have hmore (fuel : Nat) : plainMore .block none (fuel + 1) (':' :: v) = some ([], ':' :: v) := by
    simp [plainMore, isGap, isBreak]
  simp [plain, hstart, plainWord_key hname hv, hmore]

/-- A key is short enough, and on one line. -/
theorem sameLine_key (h : isKey k = true) (v : List Char) :
    sameLine (k.toList ++ ':' :: v) (':' :: v) = true := by
  obtain ⟨c, cs, heq, -, -, hlength⟩ := exists_key_eq h
  have hline : k.toList.any isBreak = false := List.any_eq_false.mpr fun d hd => by
    simpa using unbroken_key h d hd
  have hshort : k.toList.length ≤ 1024 := by
    rw [heq, List.length_cons]
    omega
  have hdifference : (k.toList ++ ':' :: v).length - (':' :: v).length = k.toList.length := by
    rw [List.length_append]
    omega
  rw [sameLine, hdifference, List.take_left, hline]
  simpa using hshort

/-- **A key is read with what follows its colon.** -/
theorem readKey_key (h : isKey k = true) (hv : startsBlank v = true) :
    readKey (k.toList ++ ':' :: v) = some (.scalar none k, v) := by
  obtain ⟨c, cs, heq, hc, -⟩ := exists_key_eq h
  have hflat : readFlat {} (k.toList ++ ':' :: v) = none := by
    rw [heq]
    exact readFlat_eq_none {} (ne_of_isLetter hc (by decide)) _
  have hproperties : properties (k.toList ++ ':' :: v) = some ({}, k.toList ++ ':' :: v) := by
    rw [heq]
    have hmarks : ∀ d ∈ ['&', '!'], c ≠ d := ne_of_isLetter hc (by decide)
    exact properties_of_ne (hmarks _ (by simp)) (hmarks _ (by simp)) _
  have hcolon : (':' :: v).dropWhile isGap = ':' :: v := List.dropWhile_cons_of_neg (by decide)
  simp [readKey, hproperties, hflat, plain_key h hv, hcolon, hv, sameLine_key h v]

end Key

end Yaml

end NodeBootstrap
