import NodeBootstrap.Files.Tree
import NodeBootstrap.Proofs.Cutting

/-!
# Paths and the way they name

* `Path.isAbsolute_iff`: the parts of a path say whether it begins at the root;
* **`Path.parent_way`**: the way of a path's parent is a proper beginning of the path's own way, and
  it begins in the same place.
-/

namespace NodeBootstrap.Path

theorem parts_ne_nil (path : OsText) : parts path ≠ [] := by
  simp [parts, Chars.pieces_ne_nil]

theorem isAbsolute_iff {path : OsText} :
    isAbsolute path = true ↔ ∃ p ps, parts path = ("" : OsText) :: p :: ps := by
  rw [isAbsolute, decide_eq_true_iff, Chars.head?_eq_some_iff, parts]
  constructor
  · rintro ⟨p, ps, h⟩
    exact ⟨⟨p⟩, ps.map OsText.mk, by rw [h]; rfl⟩
  · rintro ⟨p, ps, h⟩
    obtain ⟨q, qs, hq, hq', hqs⟩ := List.map_eq_cons_iff.mp h
    obtain ⟨r, rs, rfl, -, -⟩ := List.map_eq_cons_iff.mp hqs
    obtain rfl : q = [] := congrArg OsText.bytes hq'
    exact ⟨r, rs, hq⟩

theorem dropIdle_suffix (ps : List OsText) : dropIdle ps <:+ ps := by
  induction ps with
  | nil => exact List.suffix_refl []
  | cons p ps ih =>
    rw [dropIdle]
    split
    · exact ih.trans (List.suffix_cons p ps)
    · exact List.suffix_refl _

theorem isIdle_of_dropIdle {p : OsText} {ps qs : List OsText} (h : dropIdle qs = p :: ps) :
    isIdle p ps.isEmpty = false := by
  induction qs with
  | nil => cases h
  | cons q qs ih =>
    rw [dropIdle] at h
    split at h
    · exact ih h
    · rename_i hidle
      obtain ⟨rfl, rfl⟩ := List.cons.inj h
      simpa using hidle

theorem ne_empty_of_dropIdle {p : OsText} {ps qs : List OsText} (h : dropIdle qs = p :: ps) :
    p ≠ "" := by
  rintro rfl
  have := isIdle_of_dropIdle h
  simp [isIdle] at this

theorem parts_of_tail {path p : OsText} {rest : List OsText} (h : tail path = p :: rest) :
    ∃ junk, parts path = rest.reverse ++ p :: junk := by
  obtain ⟨junk, hjunk⟩ := dropIdle_suffix (parts path).reverse
  rw [← tail, h] at hjunk
  exact ⟨junk.reverse, by rw [← List.reverse_reverse (parts path), ← hjunk]; simp⟩

/-- Names without slashes come back from the path that they are glued to. -/
theorem parts_glue {names : List OsText} (hne : names ≠ [])
    (h : ∀ name ∈ names, slash ∉ name.bytes) : parts (glue names) = names := by
  have hbytes : ∀ p ∈ names.map OsText.bytes, slash ∉ p := List.forall_mem_map.mpr h
  rw [parts, glue, Chars.pieces_glue (by simpa using hne) hbytes, List.map_map]
  exact List.map_id names

theorem noSlash_of_mem_parts {path part : OsText} (h : part ∈ parts path) :
    slash ∉ part.bytes := by
  obtain ⟨p, hp, rfl⟩ := List.mem_map.mp h
  exact Chars.not_mem_of_mem_pieces hp

/-- Some first parts of a path, as a path of their own. -/
theorem parts_glue_front {path : OsText} {front : List OsText} (hne : front ≠ [])
    (hfront : front <+: parts path) : parts (glue front) = front :=
  parts_glue hne fun _ hp => noSlash_of_mem_parts (hfront.subset hp)

/-- A path begins at the root when its first parts do, unless an empty part is all of them. -/
theorem isAbsolute_of_prefix {path front : OsText} (h : parts front <+: parts path)
    (hne : parts front ≠ [("" : OsText)]) : isAbsolute front = isAbsolute path := by
  rw [Bool.eq_iff_iff, isAbsolute_iff, isAbsolute_iff]
  obtain ⟨more, hmore⟩ := h
  constructor
  · rintro ⟨p, ps, hp⟩
    exact ⟨p, ps ++ more, by rw [← hmore, hp]; rfl⟩
  · rintro ⟨p, ps, hp⟩
    rcases hfront : parts front with _ | ⟨q, _ | ⟨q', qs⟩⟩
    · exact absurd hfront (parts_ne_nil front)
    · rw [← hmore, hfront] at hp
      obtain ⟨rfl, -⟩ := List.cons.inj hp
      exact absurd hfront hne
    · rw [← hmore, hfront] at hp
      obtain ⟨rfl, -⟩ := List.cons.inj hp
      exact ⟨q', qs, rfl⟩

/-- **The way of a parent** is a proper beginning of the way of the path, from the same place. -/
theorem parent_way {path parent : OsText} (h : parent? path = some parent) :
    FileTree.start parent = FileTree.start path ∧
      FileTree.steps parent <+: (FileTree.steps path).dropLast := by
  unfold parent? at h
  split at h
  · cases h
  rename_i p rest htail
  obtain ⟨junk, hparts⟩ := parts_of_tail htail
  have hway : rest.reverse.filter (· ≠ ("" : OsText)) <+: (FileTree.steps path).dropLast := by
    rw [FileTree.steps, hparts, List.filter_append,
      List.filter_cons_of_pos (by simpa using ne_empty_of_dropIdle htail),
      List.dropLast_append_of_ne_nil (by simp)]
    exact List.prefix_append _ _
  rcases hps : dropIdle rest with _ | ⟨q, qs⟩
  · -- nothing but idle parts stand before the last name
    simp only [hps] at h
    obtain rfl := Option.some.inj h
    split
    · rename_i habs
      rw [FileTree.start, FileTree.start, habs]
      exact ⟨rfl, List.nil_prefix⟩
    · rename_i habs
      rw [FileTree.start, FileTree.start, if_neg habs]
      exact ⟨rfl, List.nil_prefix⟩
  · simp only [hps] at h
    obtain rfl := Option.some.inj h
    obtain ⟨idle, hidle⟩ := dropIdle_suffix rest
    have hrest : (q :: qs).reverse <+: rest.reverse := by
      rw [← hidle, hps, List.reverse_append]
      exact List.prefix_append _ _
    have hfront : (q :: qs).reverse <+: parts path := by
      rw [hparts]
      exact hrest.trans (List.prefix_append _ _)
    have hglue : parts (glue (q :: qs).reverse) = (q :: qs).reverse :=
      parts_glue_front (by simp) hfront
    have hne : (q :: qs).reverse ≠ [("" : OsText)] := by
      intro hq
      rw [List.reverse_eq_iff] at hq
      exact ne_empty_of_dropIdle hps (List.cons.inj hq).1
    have habs : isAbsolute (glue (q :: qs).reverse) = isAbsolute path :=
      isAbsolute_of_prefix (by rw [hglue]; exact hfront) (by rw [hglue]; exact hne)
    refine ⟨?_, ?_⟩
    · rw [FileTree.start, FileTree.start, habs]
    · rw [FileTree.steps, hglue]
      exact (hrest.filter _).trans hway

end NodeBootstrap.Path
