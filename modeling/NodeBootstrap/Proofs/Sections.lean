import NodeBootstrap.Document.Render
import NodeBootstrap.Proofs.Cutting

/-!
# Sections of a text

A text falls into sections at its lines of three dashes. Which characters end a line is left open.

* `Chars.lines`: the lines of a text, each with the character that ends it;
* `Chars.isRule`, `Chars.sections`: a line of three dashes, and the parts of a text between such
  lines;
* `Chars.Ended`: a text whose last line ends;
* `Chars.Unruled`: no line of a text is one of three dashes;
* **`Chars.sections_glue_iff`**: texts without such lines come back from the text in which they are
  glued exactly when all but the last end their last lines.
-/

namespace NodeBootstrap.Chars

/-! ## Lines -/

/-- The lines of a text, each with the character that ends it; only the last may lack one. -/
def lines (isEnd : Char → Bool) : List Char → List (List Char)
  | [] => []
  | c :: cs =>
    if isEnd c then [c] :: lines isEnd cs
    else
      match lines isEnd cs with
      | [] => [[c]]
      | l :: ls => (c :: l) :: ls

/-- A text whose last line ends. -/
def Ended (isEnd : Char → Bool) (cs : List Char) : Prop := cs.getLast?.any isEnd = true

section Lines

variable {isEnd : Char → Bool}

theorem ended_append {cs ds : List Char} (h : Ended isEnd ds) : Ended isEnd (cs ++ ds) := by
  obtain ⟨c, hlast, hc⟩ := (Option.any_eq_true _ _).mp h
  rw [Ended, List.getLast?_append, hlast]
  exact hc

theorem ended_cons {c : Char} {cs : List Char} (h : Ended isEnd cs) : Ended isEnd (c :: cs) :=
  show Ended isEnd ([c] ++ cs) from ended_append h

theorem ended_concat {cs : List Char} {c : Char} (h : isEnd c = true) :
    Ended isEnd (cs ++ [c]) := by
  rw [Ended, List.getLast?_concat]
  exact h

theorem not_ended_nil : ¬Ended isEnd [] := by simp [Ended]

theorem ended_cons_cons {c d : Char} {cs : List Char} :
    Ended isEnd (c :: d :: cs) ↔ Ended isEnd (d :: cs) := by
  rw [Ended, List.getLast?_cons_cons, Ended]

theorem lines_eq_nil_iff {cs : List Char} : lines isEnd cs = [] ↔ cs = [] := by
  cases cs with
  | nil => simp [lines]
  | cons c cs =>
    rw [lines]
    split
    · simp
    · split
      · simp
      · simp

theorem flatten_lines (cs : List Char) : (lines isEnd cs).flatten = cs := by
  induction cs with
  | nil => rfl
  | cons c cs ih =>
    rw [lines]
    split
    · rw [List.flatten_cons, ih]
      rfl
    · split
      · next heq => rw [lines_eq_nil_iff.mp heq]; rfl
      · next l ls heq => rw [List.flatten_cons, List.cons_append, ← List.flatten_cons, ← heq, ih]

/-- The lines of two texts follow each other when the first text ends its last line. -/
theorem lines_append {cs : List Char} (h : Ended isEnd cs) (ds : List Char) :
    lines isEnd (cs ++ ds) = lines isEnd cs ++ lines isEnd ds := by
  induction cs with
  | nil => exact absurd h not_ended_nil
  | cons c cs ih =>
    cases cs with
    | nil =>
      have hc : isEnd c = true := h
      simp [lines, hc]
    | cons d cs =>
      have hrest : Ended isEnd (d :: cs) := ended_cons_cons.mp h
      rw [List.cons_append, lines, lines, ih hrest]
      split
      · rfl
      · rcases hlines : lines isEnd (d :: cs) with _ | ⟨l, ls⟩
        · exact absurd (lines_eq_nil_iff.mp hlines) (List.cons_ne_nil d cs)
        · rfl

/-- Every line but the last ends. -/
theorem ended_of_mem_lines {cs l : List Char} {front back : List (List Char)}
    (h : lines isEnd cs = front ++ l :: back) (hback : back ≠ []) : Ended isEnd l := by
  induction cs generalizing front l with
  | nil => simp [lines] at h
  | cons c cs ih =>
    rw [lines] at h
    split at h
    · next hc =>
      cases front with
      | nil =>
        obtain ⟨rfl, -⟩ := List.cons.inj h
        exact hc
      | cons f front => exact ih (List.cons.inj h).2
    · split at h
      · cases front with
        | nil => exact absurd (List.cons.inj h).2.symm hback
        | cons f front => simp at h
      · next k ks heq =>
        cases front with
        | nil =>
          obtain ⟨rfl, rfl⟩ := List.cons.inj h
          have hk : Ended isEnd k := ih (show _ = [] ++ k :: _ from heq)
          cases k with
          | nil => exact absurd hk not_ended_nil
          | cons d k => exact ended_cons_cons.mpr hk
        | cons f front =>
          obtain ⟨-, hks⟩ := List.cons.inj h
          exact ih (show _ = (k :: front) ++ _ by rw [heq, hks]; rfl)

end Lines

/-! ## Sections -/

/-- A line of three dashes. -/
def isRule (isEnd : Char → Bool) : List Char → Bool
  | ['-', '-', '-'] => true
  | ['-', '-', '-', c] => isEnd c
  | _ => false

/-- What stands between the lines of three dashes, at least one part. -/
def sectionsOf (isEnd : Char → Bool) : List (List Char) → List (List Char)
  | [] => [[]]
  | l :: ls =>
    if isRule isEnd l then [] :: sectionsOf isEnd ls
    else
      match sectionsOf isEnd ls with
      | [] => [l]
      | s :: ss => (l ++ s) :: ss

/-- The parts of a text between its lines of three dashes. -/
def sections (isEnd : Char → Bool) (cs : List Char) : List (List Char) :=
  sectionsOf isEnd (lines isEnd cs)

section Sections

variable {isEnd : Char → Bool}

theorem sectionsOf_ne_nil (ls : List (List Char)) : sectionsOf isEnd ls ≠ [] := by
  cases ls with
  | nil => simp [sectionsOf]
  | cons l ls =>
    rw [sectionsOf]
    split
    · simp
    · split
      · simp
      · simp

theorem sectionsOf_of_unruled {ls : List (List Char)} (h : ∀ l ∈ ls, isRule isEnd l = false) :
    sectionsOf isEnd ls = [ls.flatten] := by
  induction ls with
  | nil => rfl
  | cons l ls ih =>
    obtain ⟨hl, hls⟩ := List.forall_mem_cons.mp h
    rw [sectionsOf, if_neg (by simp [hl]), ih hls]
    rfl

theorem sectionsOf_append {ls : List (List Char)} (h : ∀ l ∈ ls, isRule isEnd l = false)
    {rule : List Char} (hrule : isRule isEnd rule = true) (rest : List (List Char)) :
    sectionsOf isEnd (ls ++ rule :: rest) = ls.flatten :: sectionsOf isEnd rest := by
  induction ls with
  | nil => rw [List.nil_append, sectionsOf, if_pos hrule]; rfl
  | cons l ls ih =>
    obtain ⟨hl, hls⟩ := List.forall_mem_cons.mp h
    rw [List.cons_append, sectionsOf, if_neg (by simp [hl]), ih hls]
    rfl

/-- Every section but the last is the text of lines that end. -/
theorem ended_of_mem_sectionsOf {ls : List (List Char)}
    (h : ∀ l front back, ls = front ++ l :: back → back ≠ [] → Ended isEnd l) :
    ∀ s ∈ (sectionsOf isEnd ls).dropLast, s = [] ∨ Ended isEnd s := by
  induction ls with
  | nil => simp [sectionsOf]
  | cons l ls ih =>
    have hrest := ih fun l' front back heq => h l' (l :: front) back (by rw [heq]; rfl)
    have hne : sectionsOf isEnd ls ≠ [] := sectionsOf_ne_nil ls
    rw [sectionsOf]
    split
    · intro s hs
      rw [List.dropLast_cons_of_ne_nil hne] at hs
      rcases List.mem_cons.mp hs with rfl | hs
      · exact Or.inl rfl
      · exact hrest s hs
    · rcases hss : sectionsOf isEnd ls with _ | ⟨t, ss⟩
      · exact absurd hss hne
      · rw [hss] at hrest
        intro s hs
        dsimp only at hs
        cases ss with
        | nil => simp at hs
        | cons u ss =>
          rw [List.dropLast_cons_of_ne_nil (List.cons_ne_nil u ss)] at hs hrest
          rcases List.mem_cons.mp hs with rfl | hs
          · right
            have hl : Ended isEnd l := h l [] ls rfl (by rintro rfl; simp [sectionsOf] at hss)
            rcases hrest t (List.mem_cons_self ..) with rfl | ht
            · rwa [List.append_nil]
            · exact ended_append ht
          · exact hrest s (List.mem_cons_of_mem _ hs)

end Sections

/-! ## Texts that are glued -/

/-- No line of a text is one of three dashes. -/
def Unruled (isEnd : Char → Bool) (cs : List Char) : Prop :=
  ∀ l ∈ lines isEnd cs, isRule isEnd l = false

section Glued

variable {isEnd : Char → Bool}

theorem sections_of_unruled {cs : List Char} (h : Unruled isEnd cs) :
    sections isEnd cs = [cs] := by
  rw [sections, sectionsOf_of_unruled h, flatten_lines]

theorem sections_append (hfeed : isEnd '\n' = true) (hdash : isEnd '-' = false) {cs : List Char}
    (h : Unruled isEnd cs) (hended : Ended isEnd cs) (ds : List Char) :
    sections isEnd (cs ++ Rendering.separator ++ ds) = cs :: sections isEnd ds := by
  have hlines : lines isEnd (Rendering.separator ++ ds) =
      ['-', '-', '-', '\n'] :: lines isEnd ds := by
    simp [Rendering.separator, lines, hfeed, hdash]
  have hrule : isRule isEnd ['-', '-', '-', '\n'] = true := by simp [isRule, hfeed]
  rw [sections, List.append_assoc, lines_append hended, hlines, sectionsOf_append h hrule,
    flatten_lines]
  rfl

/-- **Texts come back from the text in which they are glued** exactly when all but the last end
their last lines. -/
theorem sections_glue_iff (hfeed : isEnd '\n' = true) (hdash : isEnd '-' = false)
    {texts : List (List Char)} (hne : texts ≠ []) (hunruled : ∀ t ∈ texts, Unruled isEnd t)
    (hfull : ∀ t ∈ texts, t ≠ []) :
    sections isEnd (glue Rendering.separator texts) = texts ↔
      ∀ t ∈ texts.dropLast, Ended isEnd t := by
  constructor
  · intro heq t ht
    have hsections : ∀ s ∈ (sections isEnd (glue Rendering.separator texts)).dropLast,
        s = [] ∨ Ended isEnd s :=
      ended_of_mem_sectionsOf fun l front back => ended_of_mem_lines
    rw [heq] at hsections
    exact (hsections t ht).resolve_left (hfull t (List.dropLast_subset _ ht))
  · intro hended
    induction texts with
    | nil => exact absurd rfl hne
    | cons t texts ih =>
      obtain ⟨ht, hrest⟩ := List.forall_mem_cons.mp hunruled
      cases texts with
      | nil => exact sections_of_unruled ht
      | cons u texts =>
        rw [List.dropLast_cons_of_ne_nil (List.cons_ne_nil u texts), List.forall_mem_cons] at hended
        rw [glue, sections_append hfeed hdash ht hended.1,
          ih (List.cons_ne_nil u texts) hrest (fun v hv => hfull v (List.mem_cons_of_mem _ hv))
            hended.2]

end Glued

end NodeBootstrap.Chars
