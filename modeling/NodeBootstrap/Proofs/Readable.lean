import NodeBootstrap.Proofs.ReadQuoted

/-!
# The characters of a written document

A written document holds only characters that may stand in one at all.

* `Yaml.Readable`: texts of such characters;
* `Scalar.readable_write`: the written form of a text, whatever the text is;
* **`Yaml.readable_write`**: a written document.
-/

namespace NodeBootstrap

open Yaml

/-- A text of characters that may stand in a document at all. -/
def Yaml.Readable (cs : List Char) : Prop := ∀ c ∈ cs, isReadable c = true

instance (cs : List Char) : Decidable (Readable cs) :=
  List.decidableBAll (isReadable · = true) cs

namespace Yaml.Readable

variable {c : Char} {cs ds : List Char}

theorem nil : Readable [] := by simp [Readable]

theorem cons (hc : isReadable c = true) (h : Readable cs) : Readable (c :: cs) :=
  List.forall_mem_cons.mpr ⟨hc, h⟩

theorem append (h : Readable cs) (h' : Readable ds) : Readable (cs ++ ds) :=
  List.forall_mem_append.mpr ⟨h, h'⟩

theorem spaces (n : Nat) : Readable (Scalar.spaces n) := fun c hc => by
  rw [Scalar.mem_spaces hc]
  decide

theorem endLine (h : Readable cs) : Readable (Yaml.endLine cs) := by
  rcases endLine_eq_or cs with heq | heq
  · rwa [heq]
  · rw [heq]
    exact h.append (by decide)

end Yaml.Readable

/-! ## Texts -/

namespace Scalar

variable {cs : List Char}

theorem isReadable_of_isPrintable {c : Char} (h : isPrintable c = true) : isReadable c = true := by
  simp only [isPrintable, Bool.or_eq_true, Bool.and_eq_true] at h
  rcases h with ((h | h) | h) | h
  · simp [isReadable, h]
  · simp [isReadable, h]
  · simp [isReadable, h]
  · simp [isReadable, h]

theorem readable_of_printable (h : cs.all isPrintable = true) : Readable cs := fun c hc =>
  isReadable_of_isPrintable (List.all_eq_true.mp h c hc)

theorem readable_upperDigits (width n : Nat) : Readable (Hex.upperDigits width n) := by
  have hdigit : ∀ k < 16, isReadable (Hex.upperDigit k) = true := by decide
  induction width generalizing n with
  | zero => exact .nil
  | succ width ih =>
    rw [Hex.upperDigits]
    exact (ih _).append (List.forall_mem_singleton.mpr (hdigit _ (Nat.mod_lt _ (by decide))))

theorem readable_escape (c : Char) : Readable (escape c) := by
  unfold escape
  split
  any_goals decide
  split_ifs with hprint
  · exact List.forall_mem_singleton.mpr (isReadable_of_isPrintable hprint)
  · exact .cons (by decide) (.cons (by decide) (readable_upperDigits 2 _))
  · exact .cons (by decide) (.cons (by decide) (readable_upperDigits 4 _))
  · exact .cons (by decide) (.cons (by decide) (readable_upperDigits 8 _))

theorem readable_writeDouble (cs : List Char) : Readable (writeDouble cs) := by
  have hbody : Readable (cs.flatMap escape) := fun d hd => by
    obtain ⟨c, -, hc⟩ := List.mem_flatMap.mp hd
    exact readable_escape c d hc
  exact (hbody.cons (by decide)).append (by decide)

theorem readable_indented (n : Nat) (fresh : Bool) (h : Readable cs) :
    Readable (indented n fresh cs) := by
  induction cs generalizing fresh with
  | nil => exact .nil
  | cons c cs ih =>
    obtain ⟨hc, hcs⟩ := List.forall_mem_cons.mp h
    rw [indented]
    split_ifs
    · exact .cons hc (ih true hcs)
    · exact (Readable.spaces n).append (.cons hc (ih false hcs))
    · exact .cons hc (ih false hcs)

theorem readable_doubleQuotes (h : Readable cs) : Readable (doubleQuotes cs) := by
  fun_induction doubleQuotes cs with
  | case1 => exact h
  | case2 cs ih => exact .cons (by decide) (.cons (by decide) (ih (List.forall_mem_cons.mp h).2))
  | case3 c cs _ ih =>
    obtain ⟨hc, hcs⟩ := List.forall_mem_cons.mp h
    exact .cons hc (ih hcs)

theorem readable_chompMark (cs : List Char) : Readable (chompMark cs) := by
  unfold chompMark
  split
  · decide
  · split_ifs <;> decide
  · split_ifs <;> decide

/-- The written form of a text is readable, however it is written. -/
theorem readable_write (n : Nat) (cs : List Char) : Readable (write n cs) := by
  unfold write style
  split_ifs with hmany hliteral hplain hsingle
  · simp only [literalAllowed, Bool.and_eq_true] at hliteral
    have hbody := readable_indented n true (readable_of_printable hliteral.1.1)
    have hneeds : Readable (if needsIndentMark cs then ['2'] else []) := by
      split_ifs <;> decide
    exact ((hneeds.append (readable_chompMark cs)).append (hbody.cons (by decide))).cons (by decide)
  · exact readable_writeDouble cs
  · simp only [plainAllowed, Bool.and_eq_true] at hplain
    exact readable_of_printable hplain.1.1.1.1.1.1
  · simp only [singleAllowed, Bool.and_eq_true] at hsingle
    have hquotes := readable_doubleQuotes (readable_of_printable hsingle.1.1)
    dsimp only
    rw [writeSingle_eq]
    exact (readable_indented n false (hquotes.append (by decide))).cons (by decide)
  · exact readable_writeDouble cs

end Scalar

/-! ## Trees -/

namespace Yaml

theorem readable_digits (k : Nat) : Readable (Decimal.digits k) := fun c hc => by
  have hdigit := Decimal.isDigit_of_mem_digits hc
  exact (Decimal.ascii_of_isDigit hdigit).forall_of_decide
    (P := fun c => Decimal.isDigit c = true → isReadable c = true) (by decide) hdigit

theorem readable_flagWord (b : Bool) : Readable (flagWord b) := by
  cases b <;> decide

theorem readable_key {k : String} (h : isKey k = true) : Readable k.toList := by
  obtain ⟨c, cs, heq, hc, hcs, -⟩ := exists_key_eq h
  have hchar {d : Char} (hd : ReadFlow.isNameChar d = true) : isReadable d = true :=
    (ascii_of_isNameChar hd).forall_of_decide
      (P := fun d => ReadFlow.isNameChar d = true → isReadable d = true) (by decide) hd
  rw [heq]
  exact .cons (hchar (isNameChar_of_isLetter hc)) fun d hd => hchar (hcs d hd)

/-- What is written of a tree behind a colon and behind a dash is readable. -/
def ReadableValue (y : Yaml) : Prop :=
  ∀ n, Readable (writeValue n y) ∧ Readable (writeItem n y)

variable {n : Nat}

theorem readable_writeItems {ys : List Yaml} (h : ∀ y ∈ ys, ReadableValue y) :
    Readable (writeItems n ys) := by
  induction ys with
  | nil => exact .nil
  | cons y ys ih =>
    obtain ⟨hy, hys⟩ := List.forall_mem_cons.mp h
    rw [writeItems]
    exact ((Readable.spaces n).append ((hy n).2.cons (by decide))).append (ih hys)

theorem readable_writeField {f : String × Yaml} (hkey : isKey f.1 = true)
    (h : ReadableValue f.2) : Readable (writeField n f) := by
  rcases f with ⟨k, y⟩
  rw [writeField]
  exact (readable_key hkey).append ((h n).1.cons (by decide))

theorem readable_writeFields {fs : List (String × Yaml)} (hkeys : ∀ f ∈ fs, isKey f.1 = true)
    (h : ∀ f ∈ fs, ReadableValue f.2) : Readable (writeFields n fs) := by
  induction fs with
  | nil => exact .nil
  | cons f fs ih =>
    obtain ⟨hkey, hmore⟩ := List.forall_mem_cons.mp hkeys
    obtain ⟨hf, hfs⟩ := List.forall_mem_cons.mp h
    rw [writeFields]
    exact ((Readable.spaces n).append (readable_writeField hkey hf)).append (ih hmore hfs)

theorem readableValue_of_tidy {y : Yaml} (h : y.Tidy fun _ => True) : ReadableValue y := by
  have hword {w : List Char} (hw : Readable w) : Readable (writeWord w) ∧ Readable (writeWord w) :=
    have hline : Readable (writeWord w) := (hw.cons (by decide)).append (by decide)
    ⟨hline, hline⟩
  induction y using Yaml.induction with
  | text s =>
    have hline (n : Nat) : Readable (writeText (n + 2) s) :=
      (Scalar.readable_write (n + 2) s.toList).endLine.cons (by decide)
    exact fun n => ⟨hline n, hline n⟩
  | number k => exact fun n => hword (readable_digits k)
  | flag b => exact fun n => hword (readable_flagWord b)
  | list ys ih =>
    intro n
    have hitems : ∀ y ∈ ys, ReadableValue y := fun y hy => ih y hy (TidyItems.of_mem h hy)
    rcases ys with _ | ⟨y, ys⟩
    · exact hword (by decide)
    · obtain ⟨hy, hys⟩ := List.forall_mem_cons.mp hitems
      refine ⟨(readable_writeItems hitems).cons (by decide), ?_⟩
      rw [writeItem]
      exact (((hy (n + 2)).2.cons (by decide)).cons (by decide)).append (readable_writeItems hys)
  | record fs ih =>
    intro n
    have hkeys : ∀ f ∈ fs, isKey f.1 = true := fun f hf => (TidyFields.of_mem h hf).1
    have hfields : ∀ f ∈ fs, ReadableValue f.2 := fun f hf => ih f hf (TidyFields.of_mem h hf).2
    rcases fs with _ | ⟨f, fs⟩
    · exact hword (by decide)
    · obtain ⟨hkey, hmore⟩ := List.forall_mem_cons.mp hkeys
      obtain ⟨hf, hfs⟩ := List.forall_mem_cons.mp hfields
      refine ⟨(readable_writeFields hkeys hfields).cons (by decide), ?_⟩
      rw [writeItem]
      exact ((readable_writeField hkey hf).cons (by decide)).append (readable_writeFields hmore hfs)

/-- **A written document is readable.** -/
theorem readable_write {f : String × Yaml} {fs : List (String × Yaml)}
    (h : (record (f :: fs)).Tidy fun _ => True) : Readable (write (record (f :: fs))) := by
  rw [write]
  exact readable_writeFields (fun g hg => (TidyFields.of_mem h hg).1)
    fun g hg => readableValue_of_tidy (TidyFields.of_mem h hg).2

end Yaml

end NodeBootstrap
