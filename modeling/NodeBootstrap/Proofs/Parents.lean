import NodeBootstrap.Proofs.Directories

/-!
# The parent of a path

* `Path.Tight`: paths that end with a name that counts;
* `Path.parent_cases`: what a parent can be;
* `Path.parent_prefix`: the text of a parent is the beginning of the path's own;
* **`Path.parent_split`**: between the way of a parent and the last name of the path are but dots.
-/

namespace NodeBootstrap

theorem Chars.glue_prefix {α : Type} (sep : List α) (front more : List (List α)) :
    glue sep front <+: glue sep (front ++ more) := by
  induction front with
  | nil => exact List.nil_prefix
  | cons p front ih =>
    cases front with
    | nil =>
      cases more with
      | nil => exact List.prefix_refl _
      | cons q more =>
        change p <+: p ++ sep ++ _
        rw [List.append_assoc]
        exact List.prefix_append _ _
    | cons q front => exact (List.prefix_append_right_inj _).mpr ih

namespace Path

variable {path parent : OsText}

/-- Nothing idle comes after the last name of the path. -/
def Tight (path : OsText) : Prop := tail path = (parts path).reverse

theorem dropIdle_split (ps : List OsText) :
    ∃ idle, ps = idle ++ dropIdle ps ∧ ∀ p ∈ idle, p = ("" : OsText) ∨ p = "." := by
  induction ps with
  | nil => exact ⟨[], rfl, by simp⟩
  | cons p ps ih =>
    rw [dropIdle]
    split
    · rename_i hidle
      obtain ⟨idle, hps, hall⟩ := ih
      refine ⟨p :: idle, by rw [List.cons_append, ← hps], List.forall_mem_cons.mpr ⟨?_, hall⟩⟩
      simp only [isIdle, Bool.or_eq_true, Bool.and_eq_true, decide_eq_true_eq] at hidle
      exact hidle.imp_right And.left
    · exact ⟨[], rfl, by simp⟩

/-- Idle parts count as dots or not at all. -/
theorem eq_dot_of_mem_filter {idle : List OsText} (h : ∀ p ∈ idle, p = ("" : OsText) ∨ p = ".") :
    ∀ d ∈ idle.reverse.filter (· ≠ ("" : OsText)), d = "." := by
  intro d hd
  rw [List.mem_filter, List.mem_reverse] at hd
  exact (h d hd.1).resolve_left (by simpa using hd.2)

/-- The parts of a path around its last name. -/
theorem exists_parts_of_tail {name : OsText} {rest : List OsText} (h : tail path = name :: rest) :
    ∃ before after : List OsText,
      parts path = (dropIdle rest).reverse ++ before.reverse ++ name :: after.reverse ∧
        (∀ p ∈ before, p = ("" : OsText) ∨ p = ".") ∧ (∀ p ∈ after, p = ("" : OsText) ∨ p = ".") ∧
          (Tight path → after = []) := by
  obtain ⟨after, hparts, hafter⟩ := dropIdle_split (parts path).reverse
  obtain ⟨before, hrest, hbefore⟩ := dropIdle_split rest
  change (parts path).reverse = after ++ tail path at hparts
  refine ⟨before, after, ?_, hbefore, hafter, fun htight => ?_⟩
  · rw [h, hrest] at hparts
    rw [← List.reverse_reverse (parts path), hparts]
    simp
  · rw [← htight] at hparts
    simpa using hparts

/-- What is left of a path without its last name and the idle parts before it. -/
theorem parent_eq (h : parent? path = some parent) : ∃ name rest, tail path = name :: rest ∧
    (dropIdle rest = [] ∧ parent = (if isAbsolute path then "/" else "" : OsText) ∨
      dropIdle rest ≠ [] ∧ parent = glue (dropIdle rest).reverse ∧
        parts parent = (dropIdle rest).reverse) := by
  unfold parent? at h
  split at h
  · cases h
  rename_i name rest htail
  refine ⟨name, rest, htail, ?_⟩
  rcases hrest : dropIdle rest with _ | ⟨q, qs⟩
  · rw [hrest] at h
    exact Or.inl ⟨rfl, (Option.some.inj h).symm⟩
  · obtain ⟨before, after, hparts, -⟩ := exists_parts_of_tail htail
    rw [hrest] at h hparts
    obtain rfl := Option.some.inj h
    have hfront : (q :: qs).reverse <+: parts path := by
      rw [hparts, List.append_assoc]
      exact List.prefix_append _ _
    exact Or.inr ⟨by simp, rfl, parts_glue_front (by simp) hfront⟩

/-- The text of a parent is the beginning of the path's own. -/
theorem parent_prefix (h : parent? path = some parent) : parent.bytes <+: path.bytes := by
  obtain ⟨name, rest, htail, ⟨-, rfl⟩ | ⟨hne, rfl, -⟩⟩ := parent_eq h
  · split
    · rename_i habsolute
      obtain ⟨bs, hbs⟩ := List.head?_eq_some_iff.mp (of_decide_eq_true habsolute)
      exact ⟨bs, hbs.symm⟩
    · exact List.nil_prefix
  · obtain ⟨before, after, hparts, -⟩ := exists_parts_of_tail htail
    have hpath : path.bytes = Chars.glue [slash] ((parts path).map OsText.bytes) := by
      rw [parts, List.map_map]
      simpa [Function.comp_def] using (Chars.glue_pieces slash path.bytes).symm
    rw [hpath, hparts, glue, List.append_assoc, List.map_append]
    exact Chars.glue_prefix _ _ _

/-- **Between the way of a parent and the last name** are but dots, and so is what comes after. -/
theorem parent_split (h : parent? path = some parent) :
    ∃ (dots : List OsText) (name : OsText) (more : List OsText),
      FileTree.steps path = FileTree.steps parent ++ (dots ++ name :: more) ∧
      (∀ d ∈ dots, d = ".") ∧ (∀ d ∈ more, d = ".") ∧ (Tight path → more = []) := by
  obtain ⟨name, rest, htail, hcases⟩ := parent_eq h
  obtain ⟨before, after, hparts, hbefore, hafter, htight⟩ := exists_parts_of_tail htail
  have hparent : FileTree.steps parent = (dropIdle rest).reverse.filter (· ≠ ("" : OsText)) := by
    rcases hcases with ⟨hnil, rfl⟩ | ⟨-, -, hfront⟩
    · rw [hnil]
      split <;> rfl
    · rw [FileTree.steps, hfront]
  refine ⟨before.reverse.filter (· ≠ ("" : OsText)), name,
    after.reverse.filter (· ≠ ("" : OsText)), ?_, eq_dot_of_mem_filter hbefore,
    eq_dot_of_mem_filter hafter, fun h => by rw [htight h]; rfl⟩
  rw [hparent, FileTree.steps, hparts, List.filter_append, List.filter_append, List.append_assoc,
    List.filter_cons_of_pos (by simpa using ne_empty_of_dropIdle htail)]

theorem parent_shorter (h : parent? path = some parent) :
    parent.bytes.length < path.bytes.length := by
  have hbegins := parent_prefix h
  refine Nat.lt_of_le_of_ne hbegins.length_le fun hlength => ?_
  obtain rfl : parent = path := OsText.ext (hbegins.eq_of_length hlength)
  obtain ⟨dots, name, more, hsteps, -⟩ := parent_split h
  simpa using congrArg List.length hsteps

end Path

end NodeBootstrap
