import NodeBootstrap.Proofs.ReadPlain

/-!
# Parts that fill the rest of a line

A scalar, an empty list or an empty record is written into the line of its key or its dash. It is
read alike behind either.

* `Yaml.Leaf`: a written part that is read where it stands and is not taken for a field;
* `Yaml.Leaf.readValue_eq`, `Yaml.Leaf.readNode_eq`: it is read behind a colon and behind a dash;
* `Yaml.leaf_plain`, `Yaml.leaf_flat`, `Yaml.leaf_block`: bare texts, what begins with a quote or a
  bracket, and blocks of lines.
-/

namespace NodeBootstrap.Yaml

open ReadFlow ReadScalar Scalar

/-- A written part `w`, with the end of its line, that is read where it stands before `t` and is not
taken for a field. Further lines of it begin at column `least` or after it. -/
structure Leaf (least : Nat) (w t : List Char) (node : YamlNode) : Prop where
  start : ∃ c r, w = c :: r ∧ isSolid c = true ∧ c ≠ '&' ∧ c ≠ '!'
  noSign : ∀ c ∈ ['-', '?', ':'], ∀ column, (Spot.mk column (w ++ t)).sign? c = none
  noKey : readKey (w ++ t) = none
  leaf : readLeaf least {} (w ++ t) = some (node, Spot.next 0 t)

namespace Leaf

variable {n least : Nat} {w t : List Char} {node : YamlNode}

theorem properties_eq (h : Leaf least w t node) : properties (w ++ t) = some ({}, w ++ t) := by
  obtain ⟨c, r, rfl, -, hname, htype⟩ := h.start
  exact properties_of_ne hname htype _

theorem restOfLine_eq (h : Leaf least w t node) : restOfLine (w ++ t) = none := by
  obtain ⟨c, r, rfl, hc, -⟩ := h.start
  exact restOfLine_of_isSolid hc _

/-- It is read behind a colon. -/
theorem readValue_eq (h : Leaf (n + 1) w t node) (fuel : Nat) :
    readValue (fuel + 1) n (' ' :: (w ++ t)) = some (node, Spot.next 0 t) := by
  have hdrop : (' ' :: (w ++ t)).dropWhile isGap = w ++ t := by
    obtain ⟨c, r, rfl, hc, -⟩ := h.start
    rw [List.dropWhile_cons_of_pos (by decide), List.cons_append,
      List.dropWhile_cons_of_neg (by simp [isGap_of_isSolid hc])]
  have hrest : restOfLine (' ' :: (w ++ t)) = none := by
    obtain ⟨c, r, rfl, hc, -⟩ := h.start
    rw [restOfLine, hdrop]
    simp [isBreak_of_isSolid hc, ne_hash_of_isSolid hc]
  simp [readValue, hrest, hdrop, h.properties_eq, Properties.none?, h.leaf]

/-- It is read behind a dash. -/
theorem readNode_eq (h : Leaf (n + 1) w t node) (fuel : Nat) :
    readNode (fuel + 2) (n + 1) none (Spot.next (n + 1) (' ' :: (w ++ t))) =
      some (node, Spot.next 0 t) := by
  have hspot : Spot.next (n + 1) (' ' :: (w ++ t)) = ⟨n + 2, w ++ t⟩ := by
    obtain ⟨c, r, rfl, hc, -⟩ := h.start
    exact Spot.next_spaces hc (n + 1) 1 (r ++ t)
  have hend : (Spot.mk (n + 2) (w ++ t)).isEnd = false := by
    obtain ⟨c, r, rfl, -⟩ := h.start
    simp [Spot.isEnd, Spot.isMark]
  have hsign := fun c hc => h.noSign c hc (n + 2)
  simp only [List.forall_mem_cons] at hsign
  obtain ⟨hdash, hquestion, hcolon, -⟩ := hsign
  have hfield : startsField ⟨n + 2, w ++ t⟩ = false := by
    simp [startsField, hquestion, hcolon, h.noKey]
  rw [hspot]
  simp [readNode, readProper, hend, hdash, hfield, h.properties_eq, h.restOfLine_eq, h.leaf]

end Leaf

/-! ## Bare texts -/

/-- A word of letters, digits and dashes that does not begin with a dash may stand bare. -/
theorem plainAllowed_of_isNameChar {c : Char} {r : List Char}
    (h : ∀ d ∈ c :: r, isNameChar d = true) (hc : c ≠ '-') : plainAllowed (c :: r) = true := by
  have hchar {P : Char → Bool} (hP : ∀ n < 128, isNameChar (Char.ofNat n) = true →
      P (Char.ofNat n) = true) : ∀ d ∈ c :: r, P d = true := fun d hd =>
    (ascii_of_isNameChar (h d hd)).forall_of_decide
      (P := fun d => isNameChar d = true → P d = true) hP (h d hd)
  have hprint : (c :: r).all isPrintable = true := List.all_eq_true.mpr (hchar (by decide))
  have hline : (c :: r).any isBreak = false := List.any_eq_false.mpr fun d hd => by
    simpa using hchar (P := fun d => !isBreak d) (by decide) d hd
  have hne (d : Char) (hd : isNameChar d = false) : d ∉ c :: r := fun hmem => by
    simp [h d hmem] at hd
  have hlast (d : Char) (hd : isNameChar d = false) : (c :: r).getLast? ≠ some d := fun hmem =>
    hne d hd (List.mem_of_getLast? hmem)
  have hfirst (d : Char) (hd : isNameChar d = false) : c ≠ d := by
    rintro rfl
    exact hne c hd (List.mem_cons_self ..)
  have hstart : badStart (c :: r) = false := by
    have hsign : indicators.contains c = false := by
      have hall := hchar (P := fun d => !indicators.contains d) (by decide) c
        (List.mem_cons_self ..)
      simpa using hall
    have hquestion := hfirst '?' (by decide)
    have hcolon := hfirst ':' (by decide)
    have hdot := hfirst '.' (by decide)
    simp only [badStart, hsign]
    simp [hc, hquestion, hcolon, Chars.after?, Ne.symm hc, Ne.symm hdot]
  have hinside : badInside (c :: r) = false := by
    have hcolons : adjacent (· == ':') isSpace (c :: r) = false :=
      adjacent_of_left fun d hd => beq_eq_false_iff_ne.mpr fun heq => hne ':' (by decide) (heq ▸ hd)
    have hhashes : adjacent isSpace (· == '#') (c :: r) = false :=
      adjacent_of_left fun d hd => beq_eq_false_iff_ne.mpr fun heq => hne ' ' (by decide) (heq ▸ hd)
    simp [badInside, hcolons, hhashes, hlast ':' (by decide)]
  simp only [plainAllowed, hprint, hline, hstart, hinside]
  simp [hfirst ' ' (by decide), hlast ' ' (by decide)]

theorem plainAllowed_digits (k : Nat) : plainAllowed (Decimal.digits k) = true := by
  have hdigit {c : Char} (hc : c ∈ Decimal.digits k) : Decimal.isDigit c = true :=
    Decimal.isDigit_of_mem_digits hc
  obtain ⟨c, r, heq⟩ := List.exists_cons_of_ne_nil (Decimal.digits_ne_nil k)
  rw [heq] at hdigit ⊢
  refine plainAllowed_of_isNameChar (fun d hd => ?_) ?_
  · rw [isNameChar, hdigit hd]
    simp
  · rintro rfl
    exact absurd (hdigit (List.mem_cons_self ..)) (by decide)

theorem plainAllowed_flagWord (b : Bool) : plainAllowed (flagWord b) = true := by
  cases b <;> decide

variable {least : Nat} {t : List Char}

/-- The end of the line stands behind no blank. -/
theorem dropWhile_newline (t : List Char) : ('\n' :: t).dropWhile isGap = '\n' :: t :=
  List.dropWhile_cons_of_neg (by decide)

theorem restOfLine_newline (t : List Char) : restOfLine ('\n' :: t) = some (Spot.next 0 t) :=
  restOfLine_break (by decide) t

/-- A bare text is a part of its own. -/
theorem leaf_plain {cs : List Char} (h : plainAllowed cs = true) (ht : Follows least t) :
    Leaf least (cs ++ ['\n']) t (.scalar none (String.ofList cs)) := by
  have hread (least : Option Nat) (hends : ∀ l ∈ least, Follows l t) := plain_eq h hends
  obtain ⟨c, r, rfl, hc, hsign, hmark⟩ := exists_start_of_plainAllowed h
  have hsigns : ∀ d ∈ indicators, c ≠ d := by
    rintro d hd rfl
    exact absurd hsign (by simpa using hd)
  have hproperties := properties_of_ne (hsigns '&' (by decide)) (hsigns '!' (by decide))
    (r ++ '\n' :: t)
  have hflat : readFlat {} (c :: (r ++ '\n' :: t)) = none :=
    readFlat_eq_none {} (fun d hd => hsigns d (by revert d; simp [indicators])) _
  have hblock : block least (c :: (r ++ '\n' :: t)) = none := by
    simp [block, hsigns '|' (by decide), hsigns '>' (by decide)]
  simp only [List.cons_append] at hread
  refine ⟨⟨c, r ++ ['\n'], rfl, hc, hsigns _ (by decide), hsigns _ (by decide)⟩, ?_, ?_, ?_⟩
  · intro d hd column
    have hblank : d = c → startsBlank (r ++ ['\n'] ++ t) = false := by
      rintro rfl
      rw [List.append_assoc]
      exact hmark (by simpa using hd) _
    simpa [Spot.sign?] using hblank
  · simp [readKey, hproperties, hflat, hread none (by simp), dropWhile_newline]
  · have hplain := hread (some least) (by simpa using ht)
    simp [readLeaf, hblock, hflat, hplain, restOfLine_newline]

/-- What begins with a quote or a bracket and is read up to the end of its line is a part of its
own. -/
theorem leaf_flat {c : Char} {r : List Char} {node : YamlNode} (hc : c ∈ ['"', '\'', '[', '\x7b'])
    (h : readFlat {} (c :: r ++ '\n' :: t) = some (node, '\n' :: t)) :
    Leaf least (c :: r ++ ['\n']) t node := by
  have hne (d : Char) (hd : d ∉ ['"', '\'', '[', '\x7b']) : c ≠ d := by
    rintro rfl
    exact hd hc
  have hproperties := properties_of_ne (hne '&' (by decide)) (hne '!' (by decide))
    (r ++ '\n' :: t)
  have hblock : block least (c :: (r ++ '\n' :: t)) = none := by
    simp [block, hne '|' (by decide), hne '>' (by decide)]
  have hsolids : ∀ c ∈ ['"', '\'', '[', '\x7b'], isSolid c = true :=
    List.all_eq_true.mp (by decide)
  have hsigns : ∀ d ∈ ['-', '?', ':'], d ∉ ['"', '\'', '[', '\x7b'] := by simp
  refine ⟨⟨c, r ++ ['\n'], rfl, hsolids c hc, hne _ (by decide), hne _ (by decide)⟩, ?_, ?_, ?_⟩
  · intro d hd column
    have hother : d ≠ c := (hne d (hsigns d hd)).symm
    simp [Spot.sign?, hother]
  · rw [List.append_assoc]
    simp only [List.cons_append, List.nil_append] at h ⊢
    simp [readKey, hproperties, h, dropWhile_newline]
  · rw [List.append_assoc]
    simp only [List.cons_append, List.nil_append] at h ⊢
    simp [readLeaf, hblock, h, restOfLine_newline]

/-- A block of lines is a part of its own. -/
theorem leaf_block {r cs : List Char}
    (h : block least ('|' :: r ++ t) = some (cs, Spot.next 0 t)) :
    Leaf least ('|' :: r) t (.scalar none (String.ofList cs)) := by
  have hproperties := properties_of_ne (show '|' ≠ '&' by decide) (by decide) (r ++ t)
  have hflat : readFlat {} ('|' :: (r ++ t)) = none := readFlat_eq_none {} (by simp) _
  have hplain : plain .block none ('|' :: (r ++ t)) = none := by
    simp [plain, plainStart, isGap, isBreak, isFlowSign]
  refine ⟨⟨'|', r, rfl, by decide, by decide, by decide⟩, ?_, ?_, ?_⟩
  · intro d hd column
    have hother : d ≠ '|' := by
      rintro rfl
      simp at hd
    simp [Spot.sign?, hother]
  · simp [readKey, hproperties, hflat, hplain]
  · rw [readLeaf, h]

/-! ## Empty lists and records -/

theorem leaf_emptyList : Leaf least ['[', ']', '\n'] t (.list none []) := by
  have hnode (fuel : Nat) :
      ReadFlow.node (fuel + 2) ('[' :: ']' :: '\n' :: t) = some (.list none [], '\n' :: t) := by
    simp [node, ReadFlow.items, properties_of_ne, Properties.none?, skip, skipFrom, isBreak, isGap]
  refine leaf_flat (r := [']']) (by simp) ?_
  have hread := hnode (4 * (t.length + 1 + 1 + 1) + 2)
  simp [readFlat, YamlNode.withAnchor, hread]

theorem leaf_emptyRecord : Leaf least ['\x7b', '\x7d', '\n'] t (.record none []) := by
  have hnode (fuel : Nat) :
      ReadFlow.node (fuel + 2) ('\x7b' :: '\x7d' :: '\n' :: t) =
        some (.record none [], '\n' :: t) := by
    simp [node, ReadFlow.fields, properties_of_ne, Properties.none?, skip, skipFrom, isBreak, isGap]
  refine leaf_flat (r := ['\x7d']) (by simp) ?_
  have hread := hnode (4 * (t.length + 1 + 1 + 1) + 2)
  simp [readFlat, YamlNode.withAnchor, hread]

end NodeBootstrap.Yaml
