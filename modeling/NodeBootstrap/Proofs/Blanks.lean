import NodeBootstrap.Text.Blank
import Mathlib.Data.List.DropRight

/-!
# Blank texts

* `Text.trim_eq_empty_iff`: a text of blanks only is what is empty without them;
* `Chars.not_isBlank_of_head?`, `Chars.not_isBlank_of_getLast?`, `Text.trim_trim`: a trimmed text
  begins and ends with no blank, and has none to lose;
* `Text.Around`, `Text.Around.trim_eq`, `Text.around_trim`: a text with blanks around it is trimmed
  like the text, and every text has blanks around what it is trimmed to;
* `Text.nonBlank_ne_none_iff`: a setting counts when there is one and it is not blank;
* `Text.nonBlank_nonBlank`: a setting that counts is trimmed already.
-/

namespace NodeBootstrap

namespace Chars

theorem trim_eq_nil_iff {cs : List Char} : trim cs = [] ↔ ∀ c ∈ cs, isBlank c := by
  change (cs.dropWhile isBlank).rdropWhile isBlank = [] ↔ _
  rw [List.rdropWhile_eq_nil_iff]
  constructor
  · intro h
    refine List.dropWhile_eq_nil_iff.mp (by_contra fun hne => ?_)
    have hhead := List.head_dropWhile_not isBlank hne
    rw [h _ (List.head_mem hne)] at hhead
    cases hhead
  · intro h c hc
    rw [List.dropWhile_eq_nil_iff.mpr h] at hc
    cases hc

theorem not_isBlank_of_getLast? {cs : List Char} {c : Char} (h : (trim cs).getLast? = some c) :
    isBlank c = false := by
  change ((cs.dropWhile isBlank).rdropWhile isBlank).getLast? = some c at h
  obtain ⟨hne, rfl⟩ := List.mem_getLast?_eq_getLast h
  simpa using List.rdropWhile_last_not isBlank _ hne

theorem not_isBlank_of_head? {cs : List Char} {c : Char} (h : (trim cs).head? = some c) :
    isBlank c = false := by
  change ((cs.dropWhile isBlank).rdropWhile isBlank).head? = some c at h
  obtain ⟨rest, hrest⟩ := List.rdropWhile_prefix isBlank (cs.dropWhile isBlank)
  have hdropped := List.head?_dropWhile_not isBlank cs
  rw [← hrest, List.head?_append, h] at hdropped
  simpa using hdropped

theorem trim_eq_self {cs : List Char} (h : ∀ c ∈ cs, isBlank c = false) : trim cs = cs := by
  have hstart : trimStart cs = cs :=
    List.dropWhile_eq_self_iff.mpr fun hlength => by simp [h _ (List.getElem_mem hlength)]
  change trimEnd (trimStart cs) = cs
  rw [hstart]
  exact List.rdropWhile_eq_self_iff.mpr fun hne => by simp [h _ (List.getLast_mem hne)]

/-- Blanks at either end do not count. -/
theorem trim_append_append {before after : List Char} (hbefore : ∀ c ∈ before, isBlank c = true)
    (hafter : ∀ c ∈ after, isBlank c = true) (cs : List Char) :
    trim (before ++ cs ++ after) = trim cs := by
  have hstart : trimStart (before ++ cs ++ after) = trimStart (cs ++ after) := by
    rw [List.append_assoc]
    exact List.dropWhile_append_of_pos hbefore
  have hend (ds : List Char) : trimEnd (ds ++ after) = trimEnd ds := by
    rw [trimEnd, List.reverse_append, List.dropWhile_append_of_pos (by simpa using hafter)]
    rfl
  rw [trim, hstart, trim]
  rcases hcs : trimStart cs with _ | ⟨c, ds⟩
  · have hblank : trimStart (cs ++ after) = trimStart after :=
      List.dropWhile_append_of_pos (List.dropWhile_eq_nil_iff.mp hcs)
    have hnil : trimStart after = [] := List.dropWhile_eq_nil_iff.mpr hafter
    rw [hblank, hnil]
  · have hkept : trimStart (cs ++ after) = trimStart cs ++ after := by
      have hne : trimStart cs ≠ [] := by simp [hcs]
      rw [trimStart, List.dropWhile_append, if_neg (by simpa [trimStart] using hne)]
      rfl
    rw [hkept, hend, hcs]

theorem exists_eq_append_trim (cs : List Char) : ∃ before after,
    (∀ c ∈ before, isBlank c = true) ∧ (∀ c ∈ after, isBlank c = true) ∧
      cs = before ++ trim cs ++ after := by
  refine ⟨cs.takeWhile isBlank, (trimStart cs).rtakeWhile isBlank,
    List.all_eq_true.mp List.all_takeWhile, fun c hc => List.mem_rtakeWhile_imp hc, ?_⟩
  have hend : trim cs ++ (trimStart cs).rtakeWhile isBlank = trimStart cs :=
    List.rdropWhile_append_rtakeWhile
  rw [List.append_assoc, hend]
  exact List.takeWhile_append_dropWhile.symm

theorem trim_trim (cs : List Char) : trim (trim cs) = trim cs := by
  have hstart : trimStart (trim cs) = trim cs := by
    rcases htrim : trim cs with _ | ⟨c, rest⟩
    · rfl
    · have hhead : isBlank c = false := not_isBlank_of_head? (congrArg List.head? htrim)
      exact List.dropWhile_cons_of_neg (by simp [hhead])
  change trimEnd (trimStart (trim cs)) = trim cs
  rw [hstart]
  exact List.rdropWhile_idempotent isBlank _

end Chars

namespace Text

/-- A text with blanks around it. -/
def Around (t s : String) : Prop :=
  ∃ before after, blank before = true ∧ blank after = true ∧ s = before ++ t ++ after

theorem Around.refl (t : String) : Around t t := ⟨"", "", rfl, rfl, by simp⟩

theorem Around.trim_eq {t s : String} (h : Around t s) : trim s = trim t := by
  obtain ⟨before, after, hbefore, hafter, rfl⟩ := h
  rw [trim, trim, String.toList_append, String.toList_append, Chars.trim_append_append
    (List.all_eq_true.mp hbefore) (List.all_eq_true.mp hafter)]

/-- A text has blanks around what is left of it without them. -/
theorem around_trim (s : String) : Around (trim s) s := by
  obtain ⟨before, after, hbefore, hafter, hs⟩ := Chars.exists_eq_append_trim s.toList
  refine ⟨String.ofList before, String.ofList after, ?_, ?_, String.toList_inj.mp ?_⟩
  · simpa [blank] using hbefore
  · simpa [blank] using hafter
  · simpa [trim] using hs

theorem Around.toList_eq {t s : String} (h : Around t s) :
    ∃ before after, (∀ c ∈ before, isBlank c = true) ∧ (∀ c ∈ after, isBlank c = true) ∧
      s.toList = before ++ t.toList ++ after := by
  obtain ⟨before, after, hbefore, hafter, rfl⟩ := h
  exact ⟨before.toList, after.toList, List.all_eq_true.mp hbefore, List.all_eq_true.mp hafter,
    by simp⟩

/-- What is no blank is not trimmed. -/
theorem mem_trim {s : String} {c : Char} (hc : c ∈ s.toList) (hblank : isBlank c = false) :
    c ∈ (trim s).toList := by
  obtain ⟨before, after, hbefore, hafter, hs⟩ := (around_trim s).toList_eq
  rw [hs, List.mem_append, List.mem_append] at hc
  rcases hc with (hc | hc) | hc
  · exact absurd (hbefore c hc) (by simp [hblank])
  · exact hc
  · exact absurd (hafter c hc) (by simp [hblank])

/-- A text of blanks only is what is empty without them. -/
theorem trim_eq_empty_iff {s : String} : trim s = "" ↔ blank s = true := by
  rw [trim, blank, List.all_eq_true, ← Chars.trim_eq_nil_iff, ← String.toList_inj]
  simp

theorem blank_eq_false_iff {s : String} : blank s = false ↔ trim s ≠ "" := by
  rw [Ne, trim_eq_empty_iff, Bool.not_eq_true]

theorem ne_empty_of_not_blank {s : String} (h : blank s = false) : s ≠ "" := by
  rintro rfl
  cases h

@[simp] theorem trim_trim (s : String) : trim (trim s) = trim s := by
  rw [trim, trim, String.toList_ofList, Chars.trim_trim]

theorem nonBlank_some (s : String) :
    nonBlank (some s) = if blank s then none else some (trim s) := by
  by_cases h : trim s = "" <;> simp [nonBlank, Option.filter, ← trim_eq_empty_iff, h]

/-- A setting counts when there is one and it is not blank. -/
theorem nonBlank_ne_none_iff {o : Option String} :
    nonBlank o ≠ none ↔ ∃ s, o = some s ∧ blank s = false := by
  rcases o with _ | s
  · simp [nonBlank]
  · simp [nonBlank, trim_eq_empty_iff]

theorem ne_empty_of_nonBlank {o : Option String} {s : String} (h : nonBlank o = some s) :
    s ≠ "" := by
  simpa using (Option.filter_eq_some_iff.mp h).2

/-- A setting that counts is trimmed already. -/
@[simp] theorem nonBlank_nonBlank (o : Option String) : nonBlank (nonBlank o) = nonBlank o := by
  rcases o with _ | s
  · rfl
  · by_cases h : trim s = ""
    · simp [nonBlank, h, Option.filter]
    · simp [nonBlank, h, Option.filter]

end Text

end NodeBootstrap
