import NodeBootstrap.Proofs.Blanks
import NodeBootstrap.Proofs.Cutting

/-!
# Lists written with commas

A text is read as a list part by part, without the blanks around a part and without the blank parts.

* `Text.Listable`: the parts that can be given so;
* `Text.listed_eq`: the parts that count, trimmed, in their order;
* `Text.Around.listed_eq`, `Text.listed_trim`: blanks around the text do not count;
* **`Text.listed_glue_around`**: parts that are written one after the other, with any blanks around
  each, are read back.
-/

namespace NodeBootstrap

namespace Chars

variable {sep : Char} {blanks : List Char}

theorem not_mem_of_isBlank (hsep : isBlank sep = false) (h : ∀ c ∈ blanks, isBlank c = true) :
    sep ∉ blanks := by
  intro hmem
  rw [h sep hmem] at hsep
  cases hsep

/-- Blanks in front of a text do not count in its first part. -/
theorem map_trim_pieces_append_left (hsep : isBlank sep = false)
    (h : ∀ c ∈ blanks, isBlank c = true) (cs : List Char) :
    (pieces sep (blanks ++ cs)).map trim = (pieces sep cs).map trim := by
  obtain ⟨p, ps, hcs, hfront⟩ := pieces_append_left (not_mem_of_isBlank hsep h) cs
  have htrim : trim (blanks ++ p) = trim p := by
    simpa using trim_append_append h (List.forall_mem_nil _) p
  rw [hcs, hfront, List.map_cons, List.map_cons, htrim]

/-- Blanks behind a text do not count in its last part. -/
theorem map_trim_pieces_append_right (hsep : isBlank sep = false)
    (h : ∀ c ∈ blanks, isBlank c = true) (cs : List Char) :
    (pieces sep (cs ++ blanks)).map trim = (pieces sep cs).map trim := by
  obtain ⟨ps, p, hcs, hback⟩ := pieces_append_right (not_mem_of_isBlank hsep h) cs
  have htrim : trim (p ++ blanks) = trim p := by
    simpa using trim_append_append (List.forall_mem_nil _) h p
  rw [hcs, hback, List.map_append, List.map_append, List.map_singleton, List.map_singleton, htrim]

end Chars

namespace Text

theorem isBlank_comma : isBlank ',' = false := by decide

/-- A part that a list written with commas can hold: it is not blank and has no comma. -/
def Listable (part : String) : Prop := blank part = false ∧ ',' ∉ part.toList

/-- The parts that count, trimmed, in their order. -/
theorem listed_eq (s : String) :
    listed s = ((pieces ',' s).filter fun part => !blank part).map trim := by
  rw [listed, List.filter_map]
  congr 1
  refine List.filter_congr fun part _ => ?_
  rw [Function.comp_apply, Bool.eq_iff_iff, decide_eq_true_eq, Bool.not_eq_true',
    blank_eq_false_iff]

theorem map_trim_pieces {sep : Char} (s : String) :
    (pieces sep s).map trim = ((Chars.pieces sep s.toList).map Chars.trim).map String.ofList := by
  rw [pieces, List.map_map, List.map_map]
  refine List.map_congr_left fun part _ => ?_
  rw [Function.comp_apply, trim, String.toList_ofList, Function.comp_apply]

section Around

variable {s t : String} {specs parts : List String}

/-- Blanks around a list do not count. -/
theorem Around.listed_eq (h : Around t s) : listed s = listed t := by
  obtain ⟨before, after, hbefore, hafter, hs⟩ := h.toList_eq
  rw [listed, listed, map_trim_pieces, map_trim_pieces, hs,
    Chars.map_trim_pieces_append_right isBlank_comma hafter,
    Chars.map_trim_pieces_append_left isBlank_comma hbefore]

@[simp] theorem listed_trim (s : String) : listed (trim s) = listed s :=
  (around_trim s).listed_eq.symm

theorem Around.listable (h : Around t s) (ht : Listable t) : Listable s := by
  obtain ⟨hblank, hcomma⟩ := ht
  refine ⟨?_, ?_⟩
  · rw [blank_eq_false_iff, h.trim_eq, ← blank_eq_false_iff]
    exact hblank
  · obtain ⟨before, after, hbefore, hafter, hs⟩ := h.toList_eq
    rw [hs, List.mem_append, List.mem_append, not_or, not_or]
    exact ⟨⟨Chars.not_mem_of_isBlank isBlank_comma hbefore, hcomma⟩,
      Chars.not_mem_of_isBlank isBlank_comma hafter⟩

/-- Parts are read back from the text that they make up. -/
theorem listed_glue (h : ∀ part ∈ parts, Listable part) :
    listed (glue "," parts) = parts.map trim := by
  rcases parts with _ | ⟨first, rest⟩
  · rfl
  · have hpieces : pieces ',' (glue "," (first :: rest)) = first :: rest :=
      pieces_glue (List.cons_ne_nil first rest) fun part hpart => (h part hpart).2
    rw [Text.listed_eq, hpieces, List.filter_eq_self.mpr fun part hpart => ?_]
    rw [(h part hpart).1]
    rfl

/-- **Parts that are not blank and have no commas are read back** from a text that has them between
commas, with any blanks around each. -/
theorem listed_glue_around (h : ∀ spec ∈ specs, Listable spec)
    (hparts : List.Forall₂ Around specs parts) : listed (glue "," parts) = specs.map trim := by
  have hpadded : (∀ part ∈ parts, Listable part) ∧ parts.map trim = specs.map trim := by
    induction hparts with
    | nil => exact ⟨h, rfl⟩
    | cons hpart _ ih =>
      rw [List.forall_mem_cons] at h
      obtain ⟨hlistable, htrim⟩ := ih h.2
      refine ⟨List.forall_mem_cons.mpr ⟨hpart.listable h.1, hlistable⟩, ?_⟩
      rw [List.map_cons, List.map_cons, hpart.trim_eq, htrim]
  rw [listed_glue hpadded.1, hpadded.2]

end Around

end Text

end NodeBootstrap
