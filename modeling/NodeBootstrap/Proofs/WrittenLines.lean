import NodeBootstrap.Proofs.Digits
import NodeBootstrap.Proofs.Sections
import NodeBootstrap.Proofs.TidyTrees

/-!
# The lines of a written document

Every line of a written document begins with a key, with a dash and a space, with the spaces that
move it in, or with an end of line. None begins with two dashes, whichever of the characters that
may end a line do end one.

* `Chars.Unmarked`: behind no end of line of a text stand two dashes;
* `Scalar.unmarked_write`: nor do they in the written form of a text, whatever follows it;
* **`Yaml.unruled_write`**: no line of a written document is one of three dashes;
* **`Yaml.ended_write`**: a written document ends its last line, unless the text in its last place
  ends with a separator of lines or paragraphs, and these do not count.
-/

namespace NodeBootstrap

/-! ## Lines that begin with dashes -/

namespace Chars

/-- Nothing ends a line of the text. -/
def Unbroken (cs : List Char) : Prop := ∀ c ∈ cs, isBreak c = false

instance (cs : List Char) : Decidable (Unbroken cs) :=
  List.decidableBAll (isBreak · = false) cs

theorem Unbroken.append {cs ds : List Char} (h : Unbroken cs) (h' : Unbroken ds) :
    Unbroken (cs ++ ds) := List.forall_mem_append.mpr ⟨h, h'⟩

/-- Behind no end of line of the text stand two dashes. -/
def Unmarked (cs : List Char) : Prop := ∀ c, isBreak c = true → ¬[c, '-', '-'] <:+: cs

theorem unmarked_nil : Unmarked [] := fun c _ h => by simp at h

theorem unmarked_cons_iff {c : Char} {cs : List Char} :
    Unmarked (c :: cs) ↔ (isBreak c = true → ¬['-', '-'] <+: cs) ∧ Unmarked cs := by
  simp only [Unmarked, List.infix_cons_iff, List.cons_prefix_cons, not_or, not_and]
  exact ⟨fun h => ⟨fun hc => (h c hc).1 rfl, fun d hd => (h d hd).2⟩,
    fun h d hd => ⟨fun heq => h.1 (heq ▸ hd), h.2 d hd⟩⟩

theorem unmarked_cons_of_not_isBreak {c : Char} {cs : List Char} (h : isBreak c = false) :
    Unmarked (c :: cs) ↔ Unmarked cs := by
  simp [unmarked_cons_iff, h]

theorem unmarked_append_iff {front : List Char} (h : Unbroken front) (cs : List Char) :
    Unmarked (front ++ cs) ↔ Unmarked cs := by
  induction front with
  | nil => rfl
  | cons c front ih =>
    obtain ⟨hc, hfront⟩ := List.forall_mem_cons.mp h
    rw [List.cons_append, unmarked_cons_of_not_isBreak hc, ih hfront]

theorem Unmarked.tail {c : Char} {cs : List Char} (h : Unmarked (c :: cs)) : Unmarked cs :=
  (unmarked_cons_iff.mp h).2

variable {isEnd : Char → Bool}

/-- A line begins a text or stands behind the end of another one. -/
theorem infix_of_lines_eq_cons {cs l : List Char} {ls : List (List Char)}
    (h : lines isEnd cs = l :: ls) :
    l <+: cs ∧ ∀ k ∈ ls, ∃ c, isEnd c = true ∧ (c :: k) <:+: cs := by
  induction cs generalizing l ls with
  | nil => simp [lines] at h
  | cons c cs ih =>
    have hlonger {k : List Char} (hk : ∃ d, isEnd d = true ∧ (d :: k) <:+: cs) :
        ∃ d, isEnd d = true ∧ (d :: k) <:+: c :: cs := by
      obtain ⟨d, hd, hk⟩ := hk
      exact ⟨d, hd, hk.trans (List.suffix_cons c cs).isInfix⟩
    rw [lines] at h
    split at h
    · next hc =>
      obtain ⟨rfl, rfl⟩ := List.cons.inj h
      refine ⟨List.cons_prefix_cons.mpr ⟨rfl, List.nil_prefix⟩, fun k hk => ?_⟩
      rcases hlines : lines isEnd cs with _ | ⟨l, ls⟩
      · simp [hlines] at hk
      · obtain ⟨hl, hls⟩ := ih hlines
        rw [hlines] at hk
        rcases List.mem_cons.mp hk with rfl | hk
        · exact ⟨c, hc, (List.cons_prefix_cons.mpr ⟨rfl, hl⟩).isInfix⟩
        · exact hlonger (hls k hk)
    · split at h
      · obtain ⟨rfl, rfl⟩ := List.cons.inj h
        exact ⟨List.cons_prefix_cons.mpr ⟨rfl, List.nil_prefix⟩, by simp⟩
      · next m ms heq =>
        obtain ⟨rfl, rfl⟩ := List.cons.inj h
        obtain ⟨hm, hms⟩ := ih heq
        exact ⟨List.cons_prefix_cons.mpr ⟨rfl, hm⟩, fun k hk => hlonger (hms k hk)⟩

theorem dashes_of_isRule {l : List Char} (h : isRule isEnd l = true) : ['-', '-'] <+: l := by
  unfold isRule at h
  split at h
  · simp
  · simp
  · cases h

/-- Whichever ends of lines count, no line of such a text is one of three dashes. -/
theorem unruled_of_unmarked (hend : ∀ c, isEnd c = true → isBreak c = true) {cs : List Char}
    (h : Unmarked ('\n' :: cs)) : Unruled isEnd cs := by
  intro l hl
  rw [Bool.eq_false_iff]
  intro hrule
  have hdashes := dashes_of_isRule hrule
  rcases hlines : lines isEnd cs with _ | ⟨k, ks⟩
  · simp [hlines] at hl
  · obtain ⟨hk, hks⟩ := infix_of_lines_eq_cons hlines
    rw [hlines] at hl
    rcases List.mem_cons.mp hl with rfl | hl
    · exact (unmarked_cons_iff.mp h).1 (by decide) (hdashes.trans hk)
    · obtain ⟨c, hc, hline⟩ := hks l hl
      have hmark : [c, '-', '-'] <+: c :: l := List.cons_prefix_cons.mpr ⟨rfl, hdashes⟩
      exact h.tail c (hend c hc) (hmark.isInfix.trans hline)

end Chars

open Chars Yaml

/-! ## Texts -/

namespace Scalar

theorem mem_spaces {c : Char} {n : Nat} (h : c ∈ spaces n) : c = ' ' := List.eq_of_mem_replicate h

theorem unbroken_spaces (n : Nat) : Unbroken (spaces n) := fun c hc => by
  rw [mem_spaces hc]
  decide

theorem unbroken_upperDigits (width n : Nat) : Unbroken (Hex.upperDigits width n) := by
  have hdigit : ∀ k < 16, isBreak (Hex.upperDigit k) = false := by decide
  induction width generalizing n with
  | zero => simp [Unbroken, Hex.upperDigits]
  | succ width ih =>
    rw [Hex.upperDigits]
    exact (ih _).append (List.forall_mem_singleton.mpr (hdigit _ (Nat.mod_lt _ (by decide))))

theorem unbroken_escape (c : Char) : Unbroken (escape c) := by
  cases hc : isBreak c with
  | true =>
    simp only [isBreak, Bool.or_eq_true, beq_iff_eq] at hc
    rcases hc with (((rfl | rfl) | rfl) | rfl) | rfl <;> decide
  | false =>
    unfold escape
    split
    any_goals decide
    have hmark (mark : Char) (hmark : isBreak mark = false) :
        ∀ d ∈ ['\\', mark], isBreak d = false := by simp [hmark]; decide
    split_ifs
    · simpa [Unbroken] using hc
    · exact Unbroken.append (hmark 'x' (by decide)) (unbroken_upperDigits 2 _)
    · exact Unbroken.append (hmark 'u' (by decide)) (unbroken_upperDigits 4 _)
    · exact Unbroken.append (hmark 'U' (by decide)) (unbroken_upperDigits 8 _)

theorem unbroken_writeDouble (cs : List Char) : Unbroken (writeDouble cs) := by
  have hbody : Unbroken (cs.flatMap escape) := fun d hd => by
    obtain ⟨c, -, hc⟩ := List.mem_flatMap.mp hd
    exact unbroken_escape c d hc
  have hquote : Unbroken ['"'] := by decide
  exact (hquote.append hbody).append hquote

/-- Lines that are moved in do not begin with dashes. -/
theorem unmarked_indented {n : Nat} (hn : 0 < n) {t : List Char} (ht : Unmarked ('\n' :: t))
    (cs : List Char) :
    Unmarked ('\n' :: indented n true cs ++ t) ∧ Unmarked (indented n false cs ++ t) := by
  obtain ⟨k, rfl⟩ : ∃ k, n = k + 1 := ⟨n - 1, by omega⟩
  induction cs with
  | nil => exact ⟨ht, ht.tail⟩
  | cons c cs ih =>
    obtain ⟨hfresh, hmore⟩ := ih
    cases hc : isBreak c with
    | true =>
      have hnext : ¬['-', '-'] <+: indented (k + 1) true cs ++ t :=
        (unmarked_cons_iff.mp hfresh).1 (by decide)
      have hbreak : Unmarked (c :: (indented (k + 1) true cs ++ t)) :=
        unmarked_cons_iff.mpr ⟨fun _ => hnext, hfresh.tail⟩
      have hdash : ¬['-', '-'] <+: c :: (indented (k + 1) true cs ++ t) := fun h => by
        obtain ⟨rfl, -⟩ := List.cons_prefix_cons.mp h
        exact absurd hc (by decide)
      simp only [indented, hc, if_true]
      exact ⟨unmarked_cons_iff.mpr ⟨fun _ => hdash, hbreak⟩, hbreak⟩
    | false =>
      have hline : Unmarked (c :: (indented (k + 1) false cs ++ t)) :=
        (unmarked_cons_of_not_isBreak hc).mpr hmore
      simp only [indented, hc]
      refine ⟨?_, hline⟩
      have hspaces : Unmarked (spaces (k + 1) ++ c :: (indented (k + 1) false cs ++ t)) :=
        (unmarked_append_iff (unbroken_spaces _) _).mpr hline
      simpa [unmarked_cons_iff, spaces, List.replicate_succ] using hspaces

theorem unmarked_writeSingle {n : Nat} (hn : 0 < n) (cs : List Char) {t : List Char}
    (ht : Unmarked t) : Unmarked (writeSingle n cs ++ t) := by
  have hquote : Unmarked ('\n' :: '\'' :: t) := by
    simpa [unmarked_cons_iff, isBreak] using ht
  have hspaces : Unmarked ('\n' :: (spaces n ++ '\'' :: t)) := by
    obtain ⟨k, rfl⟩ : ∃ k, n = k + 1 := ⟨n - 1, by omega⟩
    have hend := (unmarked_append_iff (unbroken_spaces (k + 1)) _).mpr hquote.tail
    simpa [unmarked_cons_iff, spaces, List.replicate_succ] using hend
  have hclosed (ends : Bool) : Unmarked ('\'' :: indented n false (doubleQuotes cs) ++
      (if ends then spaces n else []) ++ ['\''] ++ t) := by
    simp only [List.append_assoc, List.cons_append]
    rw [unmarked_cons_of_not_isBreak (by decide)]
    cases ends with
    | true => exact (unmarked_indented hn hspaces _).2
    | false => exact (unmarked_indented hn hquote _).2
  exact hclosed _

theorem unbroken_header (cs : List Char) :
    Unbroken ('|' :: (if needsIndentMark cs then ['2'] else []) ++ chompMark cs) := by
  have hchomp : Unbroken (chompMark cs) := by
    unfold chompMark
    split
    · decide
    · split_ifs <;> decide
    · split_ifs <;> decide
  refine Unbroken.append ?_ hchomp
  split_ifs <;> decide

/-- No line of a written text begins with dashes. -/
theorem unmarked_write {n : Nat} (hn : 0 < n) (cs : List Char) {t : List Char}
    (ht : Unmarked ('\n' :: t)) : Unmarked (write n cs ++ t) := by
  unfold write style
  split_ifs with hmany hliteral hplain hsingle
  · dsimp only
    rw [writeLiteral, List.append_assoc, unmarked_append_iff (unbroken_header cs)]
    exact (unmarked_indented hn ht cs).1
  · exact (unmarked_append_iff (unbroken_writeDouble cs) t).mpr ht.tail
  · have hline : Unbroken cs := by
      simp only [plainAllowed, Bool.and_eq_true, Bool.not_eq_true', List.any_eq_false] at hplain
      exact fun c hc => by simpa using hplain.1.1.1.1.1.2 c hc
    exact (unmarked_append_iff hline t).mpr ht.tail
  · exact unmarked_writeSingle hn cs ht.tail
  · exact (unmarked_append_iff (unbroken_writeDouble cs) t).mpr ht.tail

end Scalar

/-! ## Documents -/

namespace Yaml

open Scalar

variable {n : Nat} {ends : Char → Prop} {t : List Char} {isEnd : Char → Bool}

theorem endLine_eq_or (cs : List Char) : endLine cs = cs ∨ endLine cs = cs ++ ['\n'] := by
  unfold endLine
  split
  · split_ifs
    · exact Or.inl rfl
    · exact Or.inr rfl
  · next h =>
    rw [List.getLast?_eq_none_iff] at h
    exact Or.inr (by rw [h]; rfl)

/-- A line that ends is followed by another one. -/
theorem unmarked_newline (h : Unmarked ('\n' :: t)) : Unmarked ('\n' :: '\n' :: t) :=
  unmarked_cons_iff.mpr ⟨fun _ hdash => by simp at hdash, h⟩

theorem unmarked_writeText (s : String) (h : Unmarked ('\n' :: t)) :
    Unmarked (writeText (n + 2) s ++ t) := by
  rw [writeText, List.cons_append, unmarked_cons_of_not_isBreak (by decide)]
  rcases endLine_eq_or (Scalar.write (n + 2) s.toList) with heq | heq
  · rw [heq]
    exact Scalar.unmarked_write (by omega) _ h
  · rw [heq, List.append_assoc]
    exact Scalar.unmarked_write (by omega) _ (unmarked_newline h)

theorem unmarked_writeWord {w : List Char} (hw : Unbroken w) (h : Unmarked ('\n' :: t)) :
    Unmarked (writeWord w ++ t) := by
  rw [writeWord, List.append_assoc, List.cons_append, unmarked_cons_of_not_isBreak (by decide),
    unmarked_append_iff hw]
  exact h

theorem exists_writeItem_eq (n : Nat) (y : Yaml) : ∃ rest, writeItem n y = ' ' :: rest := by
  rcases y with s | k | b | (_ | ⟨y, ys⟩) | (_ | ⟨f, fs⟩) <;> exact ⟨_, rfl⟩

/-- What a field and an item are made of has no line that begins with dashes, whatever follows. -/
def UnmarkedValue (y : Yaml) : Prop :=
  ∀ n t, Unmarked ('\n' :: t) → Unmarked (writeValue n y ++ t) ∧ Unmarked (writeItem n y ++ t)

theorem unmarked_writeItems {ys : List Yaml} (hys : ∀ y ∈ ys, UnmarkedValue y)
    (h : Unmarked ('\n' :: t)) : Unmarked ('\n' :: writeItems n ys ++ t) := by
  induction ys with
  | nil => exact h
  | cons y ys ih =>
    obtain ⟨hy, hrest⟩ := List.forall_mem_cons.mp hys
    have hitem : Unmarked (writeItem n y ++ (writeItems n ys ++ t)) := (hy n _ (ih hrest)).2
    have hline : Unmarked (spaces n ++ '-' :: (writeItem n y ++ (writeItems n ys ++ t))) := by
      rw [unmarked_append_iff (unbroken_spaces n), unmarked_cons_of_not_isBreak (by decide)]
      exact hitem
    have hdash : ¬['-', '-'] <+: spaces n ++ '-' :: (writeItem n y ++ (writeItems n ys ++ t)) := by
      obtain ⟨rest, hrest⟩ := exists_writeItem_eq n y
      rw [hrest]
      cases n <;> simp [spaces, List.replicate_succ]
    simpa [writeItems] using unmarked_cons_iff.mpr ⟨fun _ => hdash, hline⟩

/-- A key begins with a letter and stays on its line. -/
theorem exists_key_eq {k : String} (h : isKey k = true) :
    ∃ c cs, k.toList = c :: cs ∧ isLetter c = true ∧ (∀ d ∈ cs, ReadFlow.isNameChar d = true) ∧
      cs.length < 1000 := by
  unfold isKey at h
  split at h
  · next c cs heq =>
    simp only [Bool.and_eq_true, List.all_eq_true, decide_eq_true_eq] at h
    exact ⟨c, cs, heq, h.1.1, h.1.2, h.2⟩
  · cases h

theorem isNameChar_of_isLetter {c : Char} (h : isLetter c = true) :
    ReadFlow.isNameChar c = true := by
  change (isLetter c || Decimal.isDigit c || c == '_' || c == '-') = true
  rw [h]
  rfl

theorem ascii_of_isNameChar {c : Char} (h : ReadFlow.isNameChar c = true) : Ascii c := by
  simp only [ReadFlow.isNameChar, Bool.or_eq_true, Bool.and_eq_true, decide_eq_true_eq,
    beq_iff_eq] at h
  rcases h with (((h | h) | h) | rfl) | rfl
  · exact .of_le h.2 (show 'z'.toNat < 128 by decide)
  · exact .of_le h.2 (show 'Z'.toNat < 128 by decide)
  · exact Decimal.ascii_of_isDigit h
  · exact show '_'.toNat < 128 by decide
  · exact show '-'.toNat < 128 by decide

theorem unbroken_key {k : String} (h : isKey k = true) : Unbroken k.toList := by
  have hchar {c : Char} (hc : ReadFlow.isNameChar c = true) : isBreak c = false :=
    (ascii_of_isNameChar hc).forall_of_decide
      (P := fun c => ReadFlow.isNameChar c = true → isBreak c = false) (by decide) hc
  obtain ⟨c, cs, heq, hc, hcs, -⟩ := exists_key_eq h
  rw [heq]
  exact List.forall_mem_cons.mpr
    ⟨hchar (isNameChar_of_isLetter hc), fun d hd => hchar (hcs d hd)⟩

theorem unmarked_writeField {f : String × Yaml} (hkey : isKey f.1 = true)
    (hf : UnmarkedValue f.2) (h : Unmarked ('\n' :: t)) : Unmarked (writeField n f ++ t) := by
  rcases f with ⟨k, y⟩
  rw [writeField, List.append_assoc, unmarked_append_iff (unbroken_key hkey),
    List.cons_append, unmarked_cons_of_not_isBreak (by decide)]
  exact (hf n t h).1

theorem unmarked_writeFields {fs : List (String × Yaml)} (hkeys : ∀ f ∈ fs, isKey f.1 = true)
    (hfs : ∀ f ∈ fs, UnmarkedValue f.2) (h : Unmarked ('\n' :: t)) :
    Unmarked ('\n' :: writeFields n fs ++ t) := by
  induction fs with
  | nil => exact h
  | cons f fs ih =>
    obtain ⟨hf, hrest⟩ := List.forall_mem_cons.mp hfs
    obtain ⟨hkey, hmore⟩ := List.forall_mem_cons.mp hkeys
    have hfield : Unmarked (writeField n f ++ (writeFields n fs ++ t)) :=
      unmarked_writeField hkey hf (ih hmore hrest)
    have hline : Unmarked (spaces n ++ (writeField n f ++ (writeFields n fs ++ t))) :=
      (unmarked_append_iff (unbroken_spaces n) _).mpr hfield
    have hdash : ¬['-', '-'] <+: spaces n ++ (writeField n f ++ (writeFields n fs ++ t)) := by
      obtain ⟨c, cs, heq, hc, -⟩ := exists_key_eq hkey
      have hne : c ≠ '-' := by
        rintro rfl
        exact absurd hc (by decide)
      rcases f with ⟨k, y⟩
      rw [writeField, heq]
      cases n <;> simp [spaces, List.replicate_succ, Ne.symm hne]
    simpa [writeFields] using unmarked_cons_iff.mpr ⟨fun _ => hdash, hline⟩

theorem unbroken_digits (k : Nat) : Unbroken (Decimal.digits k) := fun c hc => by
  have hdigit := Decimal.isDigit_of_mem_digits hc
  exact (Decimal.ascii_of_isDigit hdigit).forall_of_decide
    (P := fun c => Decimal.isDigit c = true → isBreak c = false) (by decide) hdigit

theorem unbroken_flagWord (b : Bool) : Unbroken (flagWord b) := by
  cases b <;> decide

/-- What a tidy tree is made of has no line that begins with dashes. -/
theorem unmarkedValue_of_tidy {y : Yaml} (h : y.Tidy fun _ => True) : UnmarkedValue y := by
  have hempty {w : List Char} (hw : Unbroken w) {t : List Char} (ht : Unmarked ('\n' :: t)) :
      Unmarked (writeWord w ++ t) ∧ Unmarked (writeWord w ++ t) :=
    ⟨unmarked_writeWord hw ht, unmarked_writeWord hw ht⟩
  induction y using Yaml.induction with
  | text s => exact fun n t ht => ⟨unmarked_writeText s ht, unmarked_writeText s ht⟩
  | number k => exact fun n t ht => hempty (unbroken_digits k) ht
  | flag b => exact fun n t ht => hempty (unbroken_flagWord b) ht
  | list ys ih =>
    intro n t ht
    have hitems : ∀ y ∈ ys, UnmarkedValue y := fun y hy => ih y hy (TidyItems.of_mem h hy)
    rcases ys with _ | ⟨y, ys⟩
    · exact hempty (by decide) ht
    · obtain ⟨hy, hys⟩ := List.forall_mem_cons.mp hitems
      refine ⟨unmarked_writeItems hitems ht, ?_⟩
      rw [writeItem, List.append_assoc, List.cons_append, List.cons_append,
        unmarked_cons_of_not_isBreak (by decide), unmarked_cons_of_not_isBreak (by decide)]
      exact (hy (n + 2) _ (unmarked_writeItems hys ht)).2
  | record fs ih =>
    intro n t ht
    have hkeys : ∀ f ∈ fs, isKey f.1 = true := fun f hf => (TidyFields.of_mem h hf).1
    have hfields : ∀ f ∈ fs, UnmarkedValue f.2 := fun f hf => ih f hf (TidyFields.of_mem h hf).2
    rcases fs with _ | ⟨f, fs⟩
    · exact hempty (by decide) ht
    · obtain ⟨hkey, hmore⟩ := List.forall_mem_cons.mp hkeys
      obtain ⟨hf, hfs⟩ := List.forall_mem_cons.mp hfields
      refine ⟨unmarked_writeFields hkeys hfields ht, ?_⟩
      rw [writeItem, List.append_assoc, List.cons_append, unmarked_cons_of_not_isBreak (by decide)]
      exact unmarked_writeField hkey hf (unmarked_writeFields hmore hfs ht)

/-- **No line of a written document is one of three dashes**, whichever ends of lines count. -/
theorem unruled_write (hend : ∀ c, isEnd c = true → isBreak c = true) {f : String × Yaml}
    {fs : List (String × Yaml)} (h : (record (f :: fs)).Tidy ends) :
    Unruled isEnd (write (record (f :: fs))) := by
  have hstart : Unmarked ['\n'] := unmarked_cons_iff.mpr ⟨fun _ => by decide, unmarked_nil⟩
  have hfields : Unmarked ('\n' :: writeFields 0 (f :: fs) ++ []) := unmarked_writeFields
    (fun g hg => (TidyFields.of_mem h hg).1)
    (fun g hg => unmarkedValue_of_tidy (TidyFields.of_mem h hg).2) hstart
  rw [List.append_nil] at hfields
  exact unruled_of_unmarked hend hfields

end Yaml

/-! ## How written documents end -/

namespace Scalar

/-- A separator of lines or paragraphs. -/
def IsSeparator (c : Char) : Prop := c = '\u2028' ∨ c = '\u2029'

theorem eq_newline_or_isSeparator {c : Char} (hprint : isPrintable c = true)
    (hbreak : isBreak c = true) : c = '\n' ∨ IsSeparator c := by
  simp only [isBreak, Bool.or_eq_true, beq_iff_eq] at hbreak
  rcases hbreak with (((rfl | rfl) | rfl) | h) | h
  · exact Or.inl rfl
  · exact absurd hprint (by decide)
  · exact absurd hprint (by decide)
  · exact Or.inr (Or.inl h)
  · exact Or.inr (Or.inr h)

theorem getLast?_indented (n : Nat) (fresh : Bool) (cs : List Char) :
    (indented n fresh cs).getLast? = cs.getLast? := by
  induction cs generalizing fresh with
  | nil => rfl
  | cons c cs ih =>
    have hcons (fresh : Bool) : (c :: indented n fresh cs).getLast? = (c :: cs).getLast? := by
      rw [List.getLast?_cons, List.getLast?_cons, ih]
    rw [indented]
    split
    · exact hcons true
    · rw [List.getLast?_append, hcons false]
      simp [List.getLast?_cons]

/-- A written text that ends with the end of a line ends as the text itself does. -/
theorem getLast?_write {n : Nat} {cs : List Char} {c : Char}
    (hlast : (write n cs).getLast? = some c) (hbreak : isBreak c = true) :
    cs.getLast? = some c ∧ (c = '\n' ∨ IsSeparator c) := by
  have hquoted (front : List Char) {quote : Char} (hquote : isBreak quote = false)
      (h : (front ++ [quote]).getLast? = some c) : False := by
    rw [List.getLast?_concat] at h
    cases h
    exact absurd hbreak (by simp [hquote])
  unfold write style at hlast
  split_ifs at hlast with hmany hliteral hplain hsingle
  · have hfull : '\n' ∈ cs := by simpa using hmany
    have hsame : cs.getLast? = some c := by
      dsimp only at hlast
      rw [writeLiteral, List.getLast?_append, List.getLast?_cons, getLast?_indented] at hlast
      rcases hcs : cs.getLast? with _ | d
      · rw [List.getLast?_eq_none_iff] at hcs
        simp [hcs] at hfull
      · simpa [hcs] using hlast
    have hprint : isPrintable c = true := by
      rw [literalAllowed, Bool.and_eq_true, Bool.and_eq_true, List.all_eq_true] at hliteral
      exact hliteral.1.1 c (List.mem_of_getLast? hsame)
    exact ⟨hsame, eq_newline_or_isSeparator hprint hbreak⟩
  · exact (hquoted _ (by decide) hlast).elim
  · have hline : isBreak c = false := by
      simp only [plainAllowed, Bool.and_eq_true, Bool.not_eq_true', List.any_eq_false] at hplain
      simpa using hplain.1.1.1.1.1.2 c (List.mem_of_getLast? hlast)
    exact absurd hbreak (by simp [hline])
  · exact (hquoted _ (by decide) hlast).elim
  · exact (hquoted _ (by decide) hlast).elim

end Scalar

namespace Yaml

open Scalar

variable {n : Nat} {isEnd : Char → Bool}

/-- What closes a last line: a separator only where it counts as the end of a line. -/
def Ends (isEnd : Char → Bool) (c : Char) : Prop := IsSeparator c → isEnd c = true

theorem ended_writeText (hfeed : isEnd '\n' = true) {s : String} (h : Text.Closes (Ends isEnd) s) :
    Ended isEnd (writeText n s) := by
  change Ended isEnd ([' '] ++ endLine (Scalar.write n s.toList))
  refine ended_append ?_
  unfold endLine
  split
  · next c hlast =>
    split_ifs with hbreak
    · obtain ⟨hsame, rfl | hseparator⟩ := getLast?_write hlast hbreak
      · simpa [Ended, hlast] using hfeed
      · simpa [Ended, hlast] using h c hsame hseparator
    · exact ended_concat hfeed
  · exact show Ended isEnd ([] ++ ['\n']) from ended_concat hfeed

theorem ended_writeWord (hfeed : isEnd '\n' = true) (w : List Char) : Ended isEnd (writeWord w) :=
  ended_concat hfeed

/-- What a field and an item are made of ends its last line. -/
def EndedValue (isEnd : Char → Bool) (y : Yaml) : Prop :=
  ∀ n, Ended isEnd (writeValue n y) ∧ Ended isEnd (writeItem n y)

theorem ended_writeItems {ys : List Yaml} (hne : ys ≠ [])
    (h : EndedValue isEnd (ys.getLast hne)) : Ended isEnd (writeItems n ys) := by
  induction ys with
  | nil => exact absurd rfl hne
  | cons y ys ih =>
    rw [writeItems]
    rcases ys with _ | ⟨z, ys⟩
    · rw [writeItems, List.append_nil]
      exact ended_append (ended_cons (h n).2)
    · exact ended_append (ih (List.cons_ne_nil z ys) h)

theorem ended_writeFields {fs : List (String × Yaml)} (hne : fs ≠ [])
    (h : EndedValue isEnd (fs.getLast hne).2) : Ended isEnd (writeFields n fs) := by
  induction fs with
  | nil => exact absurd rfl hne
  | cons f fs ih =>
    rw [writeFields]
    rcases fs with _ | ⟨g, fs⟩
    · rcases f with ⟨k, y⟩
      rw [writeFields, List.append_nil, writeField]
      exact ended_append (ended_append (ended_cons (h n).1))
    · exact ended_append (ih (List.cons_ne_nil g fs) h)

/-- A tidy tree ends its last line. -/
theorem endedValue_of_tidy (hfeed : isEnd '\n' = true) {y : Yaml} (h : y.Tidy (Ends isEnd)) :
    EndedValue isEnd y := by
  have hword (w : List Char) : Ended isEnd (writeWord w) ∧ Ended isEnd (writeWord w) :=
    ⟨ended_writeWord hfeed w, ended_writeWord hfeed w⟩
  induction y using Yaml.induction with
  | text s => exact fun n => ⟨ended_writeText hfeed h, ended_writeText hfeed h⟩
  | number k => exact fun n => hword _
  | flag b => exact fun n => hword _
  | list ys ih =>
    intro n
    rcases ys with _ | ⟨y, ys⟩
    · exact hword _
    · have hlast := fun hne => ih _ (List.getLast_mem hne) (TidyItems.getLast h hne)
      have hne := List.cons_ne_nil y ys
      refine ⟨ended_cons (ended_writeItems hne (hlast hne)), ?_⟩
      rw [writeItem]
      rcases ys with _ | ⟨z, ys⟩
      · rw [writeItems, List.append_nil]
        exact ended_cons (ended_cons (hlast hne (n + 2)).2)
      · exact ended_append (ended_writeItems (List.cons_ne_nil z ys) (hlast hne))
  | record fs ih =>
    intro n
    rcases fs with _ | ⟨f, fs⟩
    · exact hword _
    · have hlast := fun hne => ih _ (List.getLast_mem hne) (TidyFields.getLast h hne)
      have hne := List.cons_ne_nil f fs
      refine ⟨ended_cons (ended_writeFields hne (hlast hne)), ?_⟩
      rw [writeItem]
      rcases fs with _ | ⟨g, fs⟩
      · rcases f with ⟨k, y⟩
        rw [writeFields, List.append_nil, writeField]
        exact ended_cons (ended_append (ended_cons (hlast hne (n + 2)).1))
      · exact ended_append (ended_writeFields (List.cons_ne_nil g fs) (hlast hne))

/-- **A written document ends its last line**, unless the text in its last place ends with a
separator that does not count. -/
theorem ended_write (hfeed : isEnd '\n' = true) {f : String × Yaml} {fs : List (String × Yaml)}
    (h : (record (f :: fs)).Tidy (Ends isEnd)) : Ended isEnd (write (record (f :: fs))) := by
  have hne := List.cons_ne_nil f fs
  exact ended_writeFields hne (endedValue_of_tidy hfeed (TidyFields.getLast h hne))

end Yaml

end NodeBootstrap
