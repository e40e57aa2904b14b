import NodeBootstrap.Text.Cut

/-!
# Cutting and gluing

* `Chars.pieces_append_sep`, `Chars.pieces_append`: the parts on both sides of a separator;
* **`Chars.pieces_glue`**: parts without a separator in them come back from the text that they are
  glued to;
* `Chars.pieces_append_left`, `Chars.pieces_append_right`: what stands before and behind a text
  comes into its first and its last part;
* `Chars.glue_pieces`, `Chars.mem_of_mem_pieces`: a text is its parts glued together, and has their
  characters;
* `Chars.not_mem_of_mem_pieces`: no part has a separator in it;
* `Chars.cut_eq_some_iff`, `Chars.cutLast_eq_some_iff`: the two sides of the first and of the last
  separator;
* `Chars.after?_eq_some_iff`: what comes after the beginning of a text;
* `Chars.exists_run`, `Chars.takeWhile_run`, `Chars.dropWhile_run`: a text begins with a run of the
  characters of a kind.
-/

namespace NodeBootstrap

namespace Chars

theorem glue_eq_intercalate {α : Type} (sep : List α) (ps : List (List α)) :
    glue sep ps = sep.intercalate ps := by
  induction ps using glue.induct with
  | case1 => rfl
  | case2 p => rw [glue, List.intercalate_singleton]
  | case3 p q ps ih => rw [glue, ih, List.intercalate_cons_cons, List.append_assoc]

variable {α : Type} [DecidableEq α] {sep : α}

theorem pieces_ne_nil (sep : α) (cs : List α) : pieces sep cs ≠ [] := by
  induction cs with
  | nil => simp [pieces]
  | cons c cs ih =>
    unfold pieces
    split
    · simp
    · split
      · simp
      · simp

theorem pieces_cons_of_ne {c : α} (h : c ≠ sep) (cs : List α) :
    ∃ p ps, pieces sep cs = p :: ps ∧ pieces sep (c :: cs) = (c :: p) :: ps := by
  rcases hp : pieces sep cs with _ | ⟨p, ps⟩
  · exact absurd hp (pieces_ne_nil sep cs)
  · exact ⟨p, ps, rfl, by rw [pieces, if_neg h, hp]⟩

theorem pieces_of_not_mem {cs : List α} (h : sep ∉ cs) : pieces sep cs = [cs] := by
  induction cs with
  | nil => rfl
  | cons c cs ih =>
    rw [List.mem_cons, not_or] at h
    rw [pieces, if_neg (Ne.symm h.1), ih h.2]

/-- The parts on both sides of a separator are all parts. -/
theorem pieces_append_sep (as bs : List α) :
    pieces sep (as ++ sep :: bs) = pieces sep as ++ pieces sep bs := by
  induction as with
  | nil => simp [pieces]
  | cons c as ih =>
    by_cases hc : c = sep
    · rw [List.cons_append, pieces, if_pos hc, ih, pieces, if_pos hc, List.cons_append]
    · obtain ⟨p, ps, hp, hcons⟩ := pieces_cons_of_ne hc as
      rw [List.cons_append, pieces, if_neg hc, ih, hp, hcons]
      rfl

theorem pieces_append {p : List α} (h : sep ∉ p) (cs : List α) :
    pieces sep (p ++ sep :: cs) = p :: pieces sep cs := by
  rw [pieces_append_sep, pieces_of_not_mem h, List.singleton_append]

/-- Characters in front of a text that are no separators come to stand in its first part. -/
theorem pieces_append_left {front : List α} (h : sep ∉ front) (cs : List α) :
    ∃ p ps, pieces sep cs = p :: ps ∧ pieces sep (front ++ cs) = (front ++ p) :: ps := by
  induction front with
  | nil =>
    obtain ⟨p, ps, hp⟩ := List.exists_cons_of_ne_nil (pieces_ne_nil sep cs)
    exact ⟨p, ps, hp, hp⟩
  | cons c front ih =>
    rw [List.mem_cons, not_or] at h
    obtain ⟨p, ps, hcs, hfront⟩ := ih h.2
    refine ⟨p, ps, hcs, ?_⟩
    rw [List.cons_append, pieces, if_neg (Ne.symm h.1), hfront]
    rfl

/-- Characters behind a text that are no separators come to stand in its last part. -/
theorem pieces_append_right {back : List α} (h : sep ∉ back) (cs : List α) :
    ∃ ps p, pieces sep cs = ps ++ [p] ∧ pieces sep (cs ++ back) = ps ++ [p ++ back] := by
  induction cs with
  | nil => exact ⟨[], [], rfl, pieces_of_not_mem h⟩
  | cons c cs ih =>
    obtain ⟨ps, p, hcs, hback⟩ := ih
    by_cases hc : c = sep
    · exact ⟨[] :: ps, p, by simp [pieces, hc, hcs], by simp [pieces, hc, hback]⟩
    · cases ps with
      | nil => exact ⟨[], c :: p, by simp [pieces, hc, hcs], by simp [pieces, hc, hback]⟩
      | cons q ps =>
        exact ⟨(c :: q) :: ps, p, by simp [pieces, hc, hcs], by simp [pieces, hc, hback]⟩

/-- **Parts without a separator come back** from the text that they are glued to. -/
theorem pieces_glue {ps : List (List α)} (hne : ps ≠ []) (h : ∀ p ∈ ps, sep ∉ p) :
    pieces sep (glue [sep] ps) = ps := by
  induction ps with
  | nil => exact absurd rfl hne
  | cons p ps ih =>
    have hp : sep ∉ p := h p (by simp)
    cases ps with
    | nil => rw [glue, pieces_of_not_mem hp]
    | cons q qs =>
      rw [glue, List.append_assoc, List.singleton_append, pieces_append hp,
        ih (by simp) fun r hr => h r (List.mem_cons_of_mem _ hr)]

theorem not_mem_of_mem_pieces {cs p : List α} (h : p ∈ pieces sep cs) : sep ∉ p := by
  induction cs generalizing p with
  | nil =>
    rw [pieces, List.mem_singleton] at h
    simp [h]
  | cons c cs ih =>
    by_cases hc : c = sep
    · rw [pieces, if_pos hc, List.mem_cons] at h
      rcases h with rfl | h
      · simp
      · exact ih h
    · obtain ⟨q, qs, hq, hcons⟩ := pieces_cons_of_ne hc cs
      rw [hcons, List.mem_cons] at h
      rcases h with rfl | h
      · have := ih (p := q) (by rw [hq]; simp)
        simp [Ne.symm hc, this]
      · exact ih (by rw [hq]; exact List.mem_cons_of_mem _ h)

/-- A text is its parts glued together. -/
theorem glue_pieces (sep : α) (cs : List α) : glue [sep] (pieces sep cs) = cs := by
  induction cs with
  | nil => rfl
  | cons c cs ih =>
    by_cases hc : c = sep
    · obtain ⟨p, ps, hp⟩ := List.exists_cons_of_ne_nil (pieces_ne_nil sep cs)
      rw [hp] at ih
      rw [pieces, if_pos hc, hp, glue, ih, hc]
      rfl
    · obtain ⟨p, ps, hp, hcons⟩ := pieces_cons_of_ne hc cs
      rw [hp] at ih
      rw [hcons]
      cases ps with
      | nil => exact congrArg (c :: ·) ih
      | cons q qs => exact congrArg (c :: ·) ih

omit [DecidableEq α] in
theorem mem_glue {ps : List (List α)} {c : α} (h : c ∈ glue [sep] ps) :
    c = sep ∨ ∃ p ∈ ps, c ∈ p := by
  induction ps with
  | nil => cases h
  | cons p ps ih =>
    cases ps with
    | nil => exact Or.inr ⟨p, by simp, h⟩
    | cons q qs =>
      rw [glue, List.append_assoc, List.mem_append, List.singleton_append, List.mem_cons] at h
      rcases h with h | rfl | h
      · exact Or.inr ⟨p, by simp, h⟩
      · exact Or.inl rfl
      · exact (ih h).imp_right fun ⟨r, hr, hc⟩ => ⟨r, List.mem_cons_of_mem _ hr, hc⟩

omit [DecidableEq α] in
theorem mem_glue_of_mem {p : List α} {ps : List (List α)} (hp : p ∈ ps) {c : α}
    (hc : c ∈ p) : c ∈ glue [sep] ps := by
  induction ps with
  | nil => cases hp
  | cons q ps ih =>
    cases ps with
    | nil =>
      obtain rfl := List.mem_singleton.mp hp
      exact hc
    | cons r rs =>
      rw [glue, List.append_assoc, List.mem_append]
      rcases List.mem_cons.mp hp with rfl | hp
      · exact Or.inl hc
      · exact Or.inr (List.mem_cons_of_mem _ (ih hp))

theorem mem_of_mem_pieces {cs p : List α} (hp : p ∈ pieces sep cs) {c : α} (hc : c ∈ p) :
    c ∈ cs :=
  glue_pieces sep cs ▸ mem_glue_of_mem hp hc

/-- A text begins with a separator exactly when its first part is empty and not its only one. -/
theorem head?_eq_some_iff {cs : List α} :
    cs.head? = some sep ↔ ∃ p ps, pieces sep cs = [] :: p :: ps := by
  cases cs with
  | nil => simp [pieces]
  | cons c cs =>
    by_cases hc : c = sep
    · obtain ⟨p, ps, hp⟩ := List.exists_cons_of_ne_nil (pieces_ne_nil sep cs)
      simp [pieces, hc, hp]
    · obtain ⟨p, ps, -, hcons⟩ := pieces_cons_of_ne hc cs
      simp [hc, hcons]

/-! ## The first and the last separator -/

section Sides

variable {cs a b : List α}

theorem cut_of_not_mem (h : sep ∉ cs) : cut sep cs = none := by
  induction cs with
  | nil => rfl
  | cons c cs ih =>
    rw [List.mem_cons, not_or] at h
    rw [cut, if_neg (Ne.symm h.1), ih h.2]
    rfl

theorem cut_append (h : sep ∉ a) (b : List α) : cut sep (a ++ sep :: b) = some (a, b) := by
  induction a with
  | nil => rw [List.nil_append, cut, if_pos rfl]
  | cons c a ih =>
    rw [List.mem_cons, not_or] at h
    rw [List.cons_append, cut, if_neg (Ne.symm h.1), ih h.2]
    rfl

/-- The first separator has none before it. -/
theorem cut_eq_some_iff : cut sep cs = some (a, b) ↔ cs = a ++ sep :: b ∧ sep ∉ a := by
  constructor
  · intro h
    by_cases hmem : sep ∈ cs
    · obtain ⟨a', b', rfl, ha⟩ := List.eq_append_cons_of_mem hmem
      rw [cut_append ha] at h
      cases h
      exact ⟨rfl, ha⟩
    · rw [cut_of_not_mem hmem] at h
      cases h
  · rintro ⟨rfl, ha⟩
    exact cut_append ha b

/-- A text without the separator is not cut. -/
theorem cut_eq_none_iff : cut sep cs = none ↔ sep ∉ cs := by
  refine ⟨fun h hmem => ?_, cut_of_not_mem⟩
  obtain ⟨a, b, rfl, ha⟩ := List.eq_append_cons_of_mem hmem
  rw [cut_append ha] at h
  cases h

theorem cutLast_of_not_mem (h : sep ∉ cs) : cutLast sep cs = none := by
  induction cs with
  | nil => rfl
  | cons c cs ih =>
    rw [List.mem_cons, not_or] at h
    rw [cutLast, ih h.2]
    exact if_neg (Ne.symm h.1)

theorem cutLast_append (a : List α) (h : sep ∉ b) :
    cutLast sep (a ++ sep :: b) = some (a, b) := by
  induction a with
  | nil =>
    rw [List.nil_append, cutLast, cutLast_of_not_mem h]
    exact if_pos rfl
  | cons c a ih => rw [List.cons_append, cutLast, ih]

/-- The last separator has none after it. -/
theorem cutLast_eq_some_iff : cutLast sep cs = some (a, b) ↔ cs = a ++ sep :: b ∧ sep ∉ b := by
  constructor
  · intro h
    by_cases hmem : sep ∈ cs
    · obtain ⟨b', a', hrev, hb⟩ := List.eq_append_cons_of_mem (List.mem_reverse.mpr hmem)
      obtain rfl : cs = a'.reverse ++ sep :: b'.reverse := by
        rw [← List.reverse_reverse cs, hrev]
        simp
      have hlast : sep ∉ b'.reverse := mt List.mem_reverse.mp hb
      rw [cutLast_append _ hlast] at h
      cases h
      exact ⟨rfl, hlast⟩
    · rw [cutLast_of_not_mem hmem] at h
      cases h
  · rintro ⟨rfl, hb⟩
    exact cutLast_append a hb

/-- There is one last separator. -/
theorem last_unique {a' b' : List α} (hb : sep ∉ b) (hb' : sep ∉ b')
    (h : a ++ sep :: b = a' ++ sep :: b') : a = a' ∧ b = b' := by
  have heq := cutLast_append a hb
  rw [h, cutLast_append a' hb'] at heq
  cases heq
  exact ⟨rfl, rfl⟩

/-- There is one first separator. -/
theorem first_unique {a' b' : List α} (ha : sep ∉ a) (ha' : sep ∉ a')
    (h : a ++ sep :: b = a' ++ sep :: b') : a = a' ∧ b = b' := by
  have heq := cut_append ha b
  rw [h, cut_append ha'] at heq
  cases heq
  exact ⟨rfl, rfl⟩

end Sides

/-! ## Beginnings -/

theorem after?_eq_some_iff {front cs rest : List α} :
    after? front cs = some rest ↔ cs = front ++ rest := by
  induction front generalizing cs with
  | nil => simp [after?]
  | cons f front ih =>
    cases cs with
    | nil => simp [after?]
    | cons c cs =>
      by_cases hc : f = c
      · simp [after?, hc, ih]
      · simp [after?, hc, Ne.symm hc]

/-! ## Runs of characters -/

section Runs

omit [DecidableEq α]

variable {p : α → Bool} {run rest : List α}

theorem takeWhile_run (hrun : ∀ c ∈ run, p c = true) (hrest : ∀ c ∈ rest.head?, p c = false) :
    (run ++ rest).takeWhile p = run := by
  rw [List.takeWhile_append_of_pos hrun]
  rcases rest with _ | ⟨c, rest⟩
  · simp
  · simp [hrest c rfl]

theorem dropWhile_run (hrun : ∀ c ∈ run, p c = true) (hrest : ∀ c ∈ rest.head?, p c = false) :
    (run ++ rest).dropWhile p = rest := by
  rw [List.dropWhile_append_of_pos hrun]
  rcases rest with _ | ⟨c, rest⟩
  · rfl
  · simp [hrest c rfl]

/-- A text is a run of characters of a kind and what does not begin with one. -/
theorem exists_split (p : α → Bool) (cs : List α) : ∃ run rest, cs = run ++ rest ∧
    (∀ c ∈ run, p c = true) ∧ ∀ c ∈ rest.head?, p c = false := by
  refine ⟨cs.takeWhile p, cs.dropWhile p, List.takeWhile_append_dropWhile.symm,
    List.all_eq_true.mp List.all_takeWhile, fun c hc => ?_⟩
  have hdropped := List.head?_dropWhile_not p cs
  rw [hc] at hdropped
  simpa using hdropped

/-- The run is there when the text begins with a character of the kind. -/
theorem exists_run {cs : List α} (hne : cs ≠ [])
    (hstart : ∀ c ∈ cs.head?, p c = true) : ∃ run rest, cs = run ++ rest ∧ run ≠ [] ∧
      (∀ c ∈ run, p c = true) ∧ ∀ c ∈ rest.head?, p c = false := by
  obtain ⟨run, rest, rfl, hrun, hrest⟩ := exists_split p cs
  refine ⟨run, rest, rfl, ?_, hrun, hrest⟩
  rintro rfl
  obtain ⟨c, r, rfl⟩ := List.exists_cons_of_ne_nil hne
  exact absurd (hstart c rfl) (by simp [hrest c rfl])

end Runs

end Chars

namespace Text

variable {sep : Char}

theorem pieces_glue {ps : List String} (hne : ps ≠ []) (h : ∀ p ∈ ps, sep ∉ p.toList) :
    pieces sep (glue (String.ofList [sep]) ps) = ps := by
  have hchars : ∀ p ∈ ps.map String.toList, sep ∉ p := by
    intro p hp
    obtain ⟨q, hq, rfl⟩ := List.mem_map.mp hp
    exact h q hq
  rw [pieces, glue, String.toList_ofList, String.toList_ofList,
    Chars.pieces_glue (by simpa using hne) hchars, List.map_map]
  simp [Function.comp_def]

theorem not_mem_of_mem_pieces {s p : String} (h : p ∈ pieces sep s) : sep ∉ p.toList := by
  obtain ⟨q, hq, rfl⟩ := List.mem_map.mp h
  rw [String.toList_ofList]
  exact Chars.not_mem_of_mem_pieces hq

end Text

end NodeBootstrap
