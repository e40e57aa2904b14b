import NodeBootstrap.Proofs.Trees
import NodeBootstrap.Text.Utf8
import Mathlib.Data.List.Nodup

/-!
# Directories and the files in them

A file of a directory is reached by its name, joined to the path of the directory.

* `FileName`: the names that a host gives to files;
* `Path.parts_join`, `Path.fileName?_join`: what a joined path is made of;
* `Content.IsText`, `FileTree.Proper`: contents that are texts, and the trees that a host can have;
* `FileTree.find?_eq_some_iff`, `FileTree.find?_perm`: what is found does not depend on the order of
  the entries;
* `FileTree.locate_join`: a joined path is one step longer than that of its directory;
* `FileTree.inside`, `FileTree.listing_eq_ok`: what a directory lists, no name twice;
* **`FileTree.entry?_join`**: what a directory lists is found under the joined path.
-/

namespace NodeBootstrap

/-- A name that a host gives to a file. -/
structure FileName (name : OsText) : Prop where
  ne_empty : name ≠ ""
  ne_dot : name ≠ "."
  ne_up : name ≠ ".."
  noSlash : Path.slash ∉ name.bytes
  noNul : 0 ∉ name.bytes
  short : name.bytes.length ≤ FileTree.nameLimit

instance : DecidablePred FileName := fun name => decidable_of_iff
  (name ≠ "" ∧ name ≠ "." ∧ name ≠ ".." ∧ Path.slash ∉ name.bytes ∧ 0 ∉ name.bytes ∧
    name.bytes.length ≤ FileTree.nameLimit)
  ⟨fun ⟨hempty, hdot, hup, hslash, hnul, hshort⟩ => ⟨hempty, hdot, hup, hslash, hnul, hshort⟩,
    fun h => ⟨h.ne_empty, h.ne_dot, h.ne_up, h.noSlash, h.noNul, h.short⟩⟩

/-! ## Joined paths -/

namespace Path

variable {dir name : OsText}

theorem parts_append_slash (a b : OsText) : parts (a ++ "/" ++ b) = parts a ++ parts b := by
  have hbytes : (a ++ "/" ++ b).bytes = a.bytes ++ slash :: b.bytes := by simp
  rw [parts, hbytes, Chars.pieces_append_sep, List.map_append]
  rfl

theorem parts_of_noSlash (h : Path.slash ∉ name.bytes) : parts name = [name] := by
  rw [parts, Chars.pieces_of_not_mem h, List.map_singleton]

theorem isAbsolute_of_noSlash (h : Path.slash ∉ name.bytes) : isAbsolute name = false := by
  rw [Bool.eq_false_iff, ne_eq, isAbsolute_iff, parts_of_noSlash h]
  simp

/-- A path that ends in a slash, without the slash. -/
theorem exists_eq_append_slash {path : OsText} (h : endsInSlash path = true) :
    ∃ front : OsText, path = front ++ "/" := by
  obtain ⟨front, hfront⟩ := List.getLast?_eq_some_iff.mp (of_decide_eq_true h)
  exact ⟨⟨front⟩, OsText.ext hfront⟩

/-- A name without slashes is joined to an empty path, behind a slash, or with a slash. -/
theorem join_cases (dir : OsText) (h : Path.slash ∉ name.bytes) :
    dir = "" ∧ join dir name = name ∨
      (∃ front : OsText, dir = front ++ "/" ∧ join dir name = front ++ "/" ++ name) ∨
      dir ≠ "" ∧ join dir name = dir ++ "/" ++ name := by
  rw [join, isAbsolute_of_noSlash h, if_neg (by decide)]
  by_cases hempty : dir = ""
  · exact Or.inl ⟨hempty, by simp [hempty]⟩
  by_cases hslash : endsInSlash dir = true
  · obtain ⟨front, rfl⟩ := exists_eq_append_slash hslash
    exact Or.inr (Or.inl ⟨front, rfl, if_pos (Or.inr hslash)⟩)
  · exact Or.inr (Or.inr ⟨hempty, by rw [if_neg (by simp [hempty, hslash])]⟩)

/-- A joined name stands at the end of the path. -/
theorem exists_join_eq (dir : OsText) (h : Path.slash ∉ name.bytes) :
    ∃ front : OsText, join dir name = front ++ name := by
  rcases join_cases dir h with ⟨-, hjoin⟩ | ⟨front, -, hjoin⟩ | ⟨-, hjoin⟩
  · exact ⟨"", by rw [hjoin]; rfl⟩
  · exact ⟨_, hjoin⟩
  · exact ⟨_, hjoin⟩

/-- A joined name is the last part of the path, after the names of the directory. -/
theorem parts_join (dir : OsText) (h : Path.slash ∉ name.bytes) : ∃ front,
    parts (join dir name) = front ++ [name] ∧
      front.filter (· ≠ ("" : OsText)) = FileTree.steps dir := by
  have hname := parts_of_noSlash h
  rcases join_cases dir h with ⟨rfl, hjoin⟩ | ⟨front, rfl, hjoin⟩ | ⟨-, hjoin⟩
  · exact ⟨[], by rw [hjoin, hname]; rfl, rfl⟩
  · refine ⟨parts front, by rw [hjoin, parts_append_slash, hname], ?_⟩
    have hslash : parts (front ++ "/") = parts front ++ [("" : OsText)] := by
      have h := parts_append_slash front ""
      rwa [OsText.append_empty] at h
    rw [FileTree.steps, hslash]
    simp
  · exact ⟨parts dir, by rw [hjoin, parts_append_slash, hname], rfl⟩

theorem mem_join (h : Path.slash ∉ name.bytes) {b : UInt8} (hb : b ∈ (join dir name).bytes) :
    b ∈ dir.bytes ∨ b = slash ∨ b ∈ name.bytes := by
  rcases join_cases dir h with ⟨-, hjoin⟩ | ⟨front, rfl, hjoin⟩ | ⟨-, hjoin⟩
  · exact Or.inr (Or.inr (hjoin ▸ hb))
  · simpa [hjoin, or_assoc] using hb
  · simpa [hjoin] using hb

theorem steps_join (dir : OsText) (h : Path.slash ∉ name.bytes) (hne : name ≠ "") :
    FileTree.steps (join dir name) = FileTree.steps dir ++ [name] := by
  obtain ⟨front, hparts, hfront⟩ := parts_join dir h
  rw [FileTree.steps, hparts, List.filter_append, hfront]
  simp [hne]

theorem start_join (dir : OsText) (h : Path.slash ∉ name.bytes) :
    FileTree.start (join dir name) = FileTree.start dir := by
  have habsolute : isAbsolute (join dir name) = isAbsolute dir := by
    rcases join_cases dir h with ⟨rfl, hjoin⟩ | ⟨front, rfl, hjoin⟩ | ⟨hne, hjoin⟩
    · rw [hjoin, isAbsolute_of_noSlash h]
      rfl
    · simp [isAbsolute, hjoin]
    · obtain ⟨b, bs, hbs⟩ := List.exists_cons_of_ne_nil (mt OsText.bytes_eq_nil_iff.mp hne)
      simp [isAbsolute, hjoin, hbs]
  rw [FileTree.start, FileTree.start, habsolute]

theorem endsInSlash_append (front : OsText) (h : Path.slash ∉ name.bytes) (hne : name ≠ "") :
    endsInSlash (front ++ name) = false := by
  rw [endsInSlash, OsText.bytes_append,
    List.getLast?_append_of_ne_nil _ (mt OsText.bytes_eq_nil_iff.mp hne), decide_eq_false_iff_not]
  exact fun hslash => h (List.mem_of_getLast? hslash)

theorem endsInSlash_join (dir : OsText) (h : Path.slash ∉ name.bytes) (hne : name ≠ "") :
    endsInSlash (join dir name) = false := by
  obtain ⟨front, hjoin⟩ := exists_join_eq dir h
  rw [hjoin, endsInSlash_append front h hne]

theorem length_le_join (dir : OsText) (h : Path.slash ∉ name.bytes) :
    dir.bytes.length + name.bytes.length ≤ (join dir name).bytes.length := by
  rcases join_cases dir h with ⟨rfl, hjoin⟩ | ⟨front, rfl, hjoin⟩ | ⟨-, hjoin⟩
  · simp [hjoin]
  · simp only [hjoin, OsText.bytes_append, List.length_append]
    omega
  · simp only [hjoin, OsText.bytes_append, List.length_append]
    omega

/-- Without a name, what is joined is no path or that of a directory. -/
theorem join_empty (dir : OsText) : join dir "" = "" ∨ endsInSlash (join dir "") = true := by
  have hslash : slash ∉ ("" : OsText).bytes := by decide
  rcases join_cases dir hslash with ⟨-, hjoin⟩ | ⟨front, -, hjoin⟩ | ⟨-, hjoin⟩
  · exact Or.inl hjoin
  · exact Or.inr (by simp [endsInSlash, hjoin])
  · exact Or.inr (by simp [endsInSlash, hjoin])

theorem fileName?_join (dir : OsText) (h : FileName name) :
    fileName? (join dir name) = some name := by
  obtain ⟨front, hparts, -⟩ := parts_join dir h.noSlash
  have htail : tail (join dir name) = name :: front.reverse := by
    rw [tail, hparts, List.reverse_append, List.reverse_singleton, List.singleton_append, dropIdle,
      if_neg (by simp [isIdle, h.ne_empty, h.ne_dot])]
  rw [fileName?, htail]
  exact if_neg (by simp [h.ne_dot, h.ne_up])

end Path

/-! ## Trees of a host -/

namespace Content

/-- A content whose bytes are those of a text. -/
def IsText (c : Content) : Prop := ∃ s, Utf8.encode s = c.octets

end Content

namespace FileTree

variable {t u : FileTree} {here there names : List OsText} {dir name path : OsText} {e : FileEntry}
  {l : List (OsText × FileEntry)}

/-- A tree that a host can have: every entry is under names of its own, of which the last is one
that files have, and only what is no text is kept as bytes. -/
structure Proper (t : FileTree) : Prop where
  distinct : (t.entries.map (·.1)).Nodup
  named : ∀ e ∈ t.entries, e.1 ≠ hostRoot → ∀ name ∈ e.1.getLast?, FileName name
  bytes : ∀ e ∈ t.entries, ∀ mode bs, e.2 = .file mode (.bytes bs) → ¬(Content.bytes bs).IsText

/-! ### What is found -/

theorem find?_eq_some_iff (h : (t.entries.map (·.1)).Nodup) (hnil : names ≠ [])
    (hroot : names ≠ hostRoot) : t.find? names = some e ↔ (names, e) ∈ t.entries := by
  rw [find?, if_neg (by simp [hnil, hroot]), Option.map_eq_some_iff]
  constructor
  · rintro ⟨f, hf, rfl⟩
    obtain rfl : f.1 = names := by simpa using List.find?_some hf
    exact List.mem_of_find?_eq_some hf
  · intro hmem
    obtain ⟨f, hf⟩ : ∃ f, t.entries.find? (fun f => f.1 == names) = some f :=
      Option.isSome_iff_exists.mp (List.find?_isSome.mpr ⟨_, hmem, by simp⟩)
    have hnames : f.1 = names := by simpa using List.find?_some hf
    have hsame : f = (names, e) :=
      List.inj_on_of_nodup_map h (List.mem_of_find?_eq_some hf) hmem hnames
    exact ⟨f, hf, by rw [hsame]⟩

/-- What is found does not depend on the order of the entries. -/
theorem find?_perm (h : (t.entries.map (·.1)).Nodup) (hperm : u.entries.Perm t.entries) :
    u.find? = t.find? := by
  have hu : (u.entries.map (·.1)).Nodup := (hperm.map _).nodup_iff.mpr h
  funext names
  by_cases hnil : names = []
  · simp [find?, hnil]
  by_cases hroot : names = hostRoot
  · simp [find?, hroot]
  ext e
  rw [find?_eq_some_iff hu hnil hroot, find?_eq_some_iff h hnil hroot, hperm.mem_iff]

theorem Proper.not_isText (h : t.Proper) {mode : Nat} {bs : List UInt8}
    (hfile : t.find? names = some (.file mode (.bytes bs))) : ¬(Content.bytes bs).IsText := by
  rw [find?] at hfile
  split at hfile
  · cases hfile
  · obtain ⟨e, he, hcontent⟩ := Option.map_eq_some_iff.mp hfile
    exact h.bytes e (List.mem_of_find?_eq_some he) mode bs hcontent

theorem entry?_congr (h : u.find? = t.find?) : u.entry? = t.entry? := by
  funext path
  unfold entry?
  rw [locate_congr h, h]

/-! ### Paths into a directory -/

theorem step_dot (h : t.step here "." = .ok there) : there = here := by
  obtain ⟨m, hhere⟩ := step_eq_ok h
  rw [step, hhere] at h
  exact (Except.ok.inj h).symm

/-- Dots lead nowhere else. -/
theorem walk_dots {dots : List OsText} {m : Nat} (hdots : ∀ d ∈ dots, d = ".")
    (hhere : t.find? here = some (.directory m)) : t.walk here dots = .ok here := by
  induction dots with
  | nil => rfl
  | cons d dots ih =>
    obtain ⟨rfl, hrest⟩ := List.forall_mem_cons.mp hdots
    have hstep : t.step here "." = .ok here := by simp only [step, hhere, if_true]
    exact walk_cons_eq_ok_iff.mpr ⟨here, hstep, ih hrest⟩

theorem refuse_eq_ok_iff : refuse path = .ok () ↔
    0 ∉ path.bytes ∧ path ≠ "" ∧ path.bytes.length ≤ pathLimit := by
  rw [refuse]
  by_cases hnul : 0 ∈ path.bytes
  · simp [hnul]
  by_cases hempty : path = ""
  · simp [hempty]
  by_cases hlong : pathLimit < path.bytes.length
  · simp [hnul, hempty, hlong]
  · simp [hnul, hempty, hlong, Nat.not_lt.mp hlong]

theorem locate_eq_ok_iff : t.locate path = .ok there ↔ refuse path = .ok () ∧
    t.walk (start path)
      (steps path ++ (if Path.endsInSlash path then ["."] else [] : List OsText)) = .ok there := by
  rw [locate]
  rcases refuse path with e | _
  · simp [bind, Except.bind]
  · simp [bind, Except.bind]

theorem walk_of_locate (h : t.locate path = .ok there) :
    t.walk (start path) (steps path) = .ok there := by
  obtain ⟨-, hwalk⟩ := locate_eq_ok_iff.mp h
  by_cases hslash : Path.endsInSlash path = true
  · rw [if_pos hslash, walk_append] at hwalk
    rcases hhere : t.walk (start path) (steps path) with e | here
    · rw [hhere] at hwalk
      cases hwalk
    · rw [hhere] at hwalk
      obtain ⟨next, hstep, hnext⟩ := walk_cons_eq_ok_iff.mp hwalk
      obtain rfl := step_dot hstep
      exact hnext
  · rwa [if_neg hslash, List.append_nil] at hwalk

/-- A name that is joined to the path of a directory is one step from the directory. -/
theorem locate_join (h : Path.slash ∉ name.bytes) (hne : name ≠ "") :
    t.locate (Path.join dir name) = .ok there ↔ refuse (Path.join dir name) = .ok () ∧
      ∃ here, t.walk (start dir) (steps dir) = .ok here ∧ t.step here name = .ok there := by
  rw [locate_eq_ok_iff, Path.start_join dir h, Path.steps_join dir h hne,
    Path.endsInSlash_join dir h hne, if_neg (by decide), List.append_nil, walk_append]
  rcases t.walk (start dir) (steps dir) with e | here
  · simp
  · have hlast : t.walk here [name] = .ok there ↔ t.step here name = .ok there := by
      rw [walk_cons_eq_ok_iff]
      simp [walk]
    simp [hlast]

theorem entry?_eq_some_iff :
    t.entry? path = some e ↔ ∃ names, t.locate path = .ok names ∧ t.find? names = some e := by
  unfold entry?
  rcases t.locate path with f | names
  · simp
  · simp

theorem step_fileName (h : FileName name) : t.step here name = .ok there ↔
    there = here ++ [name] ∧ (∃ m, t.find? here = some (.directory m)) ∧
      (t.find? there).isSome = true := by
  constructor
  · intro hstep
    obtain ⟨m, hhere⟩ := step_eq_ok hstep
    rw [step, hhere] at hstep
    dsimp only at hstep
    rw [if_neg h.ne_dot, if_neg h.ne_up, if_neg (Nat.not_lt.mpr h.short)] at hstep
    rcases hthere : t.find? (here ++ [name]) with _ | e
    · rw [hthere] at hstep
      cases hstep
    · rw [hthere] at hstep
      obtain rfl := Except.ok.inj hstep
      exact ⟨rfl, ⟨m, hhere⟩, by rw [hthere]; rfl⟩
  · rintro ⟨rfl, ⟨m, hhere⟩, hthere⟩
    obtain ⟨e, he⟩ := Option.isSome_iff_exists.mp hthere
    exact step_name hhere h.ne_dot h.ne_up h.short he

/-! ### Listings -/

/-- The entries one name further than some names, with that name. -/
def inside (here : List OsText) (entries : List (List OsText × FileEntry)) :
    List (OsText × FileEntry) :=
  entries.filterMap fun e => (nameIn here e.1).map fun name => (name, e.2)

theorem nameIn_eq_some_iff : nameIn here names = some name ↔ names = here ++ [name] := by
  rw [nameIn]
  constructor
  · intro h
    split at h
    · split at h
      · rename_i hnames
        obtain rfl := Option.some.inj h
        exact hnames.symm
      · cases h
    · cases h
  · rintro rfl
    simp

/-- A directory lists what is one name further than itself. -/
theorem listing_eq_ok (h : t.listing dir = .ok l) : ∃ here m,
    t.locate dir = .ok here ∧ t.find? here = some (.directory m) ∧ l = inside here t.entries := by
  rw [listing] at h
  rcases hlocate : t.locate dir with f | here
  · rw [hlocate] at h
    cases h
  · rw [hlocate] at h
    dsimp only [bind, Except.bind] at h
    split at h
    · rename_i m hhere
      obtain rfl := Except.ok.inj h
      exact ⟨here, m, rfl, hhere, rfl⟩
    · cases h

theorem mem_inside_iff {entries : List (List OsText × FileEntry)} :
    (name, e) ∈ inside here entries ↔ (here ++ [name], e) ∈ entries := by
  rw [inside, List.mem_filterMap]
  constructor
  · rintro ⟨f, hf, heq⟩
    obtain ⟨n, hn, heq⟩ := Option.map_eq_some_iff.mp heq
    obtain ⟨rfl, rfl⟩ := Prod.mk.inj heq
    exact nameIn_eq_some_iff.mp hn ▸ hf
  · intro hmem
    exact ⟨_, hmem, by rw [nameIn_eq_some_iff.mpr rfl]; rfl⟩

/-- No name is listed twice. -/
theorem nodup_listing (ht : t.Proper) (h : t.listing dir = .ok l) : (l.map (·.1)).Nodup := by
  obtain ⟨here, m, -, -, rfl⟩ := listing_eq_ok h
  have hnames : (inside here t.entries).map (·.1) =
      (t.entries.map (·.1)).filterMap (nameIn here) := by
    rw [inside, List.map_filterMap, List.filterMap_map]
    simp [Function.comp_def]
  rw [hnames]
  refine ht.distinct.filterMap fun names names' name hname hname' => ?_
  rw [nameIn_eq_some_iff.mp hname, nameIn_eq_some_iff.mp hname']

/-- Another order of the entries is another order of the listing. -/
theorem listing_perm (hfind : u.find? = t.find?) (hperm : u.entries.Perm t.entries) (dir : OsText) :
    match t.listing dir with
    | .error e => u.listing dir = .error e
    | .ok l => ∃ l', u.listing dir = .ok l' ∧ l'.Perm l := by
  rw [listing, listing, locate_congr hfind, hfind]
  rcases t.locate dir with e | here
  · rfl
  dsimp only [bind, Except.bind]
  rcases t.find? here with _ | ⟨mode, c⟩ | m
  · rfl
  · rfl
  · exact ⟨_, rfl, hperm.filterMap _⟩

theorem append_ne_hostRoot (h : FileName name) : here ++ [name] ≠ hostRoot := by
  intro heq
  have hslash : name = "/" := by simpa [hostRoot] using congrArg List.getLast? heq
  exact h.noSlash (by rw [hslash]; decide)

/-- A listed name is one that files have; only the root of the host has another one. -/
theorem fileName_of_mem_listing (ht : t.Proper) (hl : t.listing dir = .ok l) (hmem : (name, e) ∈ l)
    (hne : name ≠ "/") : FileName name := by
  obtain ⟨here, m, -, -, rfl⟩ := listing_eq_ok hl
  refine ht.named _ (mem_inside_iff.mp hmem) (fun hroot => hne ?_) name (by simp)
  simpa [hostRoot] using congrArg List.getLast? hroot

/-- **What a directory lists is found under its path**, unless the path is longer than a host
takes. -/
theorem entry?_join (ht : t.Proper) (hl : t.listing dir = .ok l) (hmem : (name, e) ∈ l)
    (hname : FileName name) (hshort : (Path.join dir name).bytes.length ≤ pathLimit) :
    t.entry? (Path.join dir name) = some e := by
  obtain ⟨here, m, hdir, hhere, rfl⟩ := listing_eq_ok hl
  rw [mem_inside_iff] at hmem
  have hfound : t.find? (here ++ [name]) = some e :=
    (find?_eq_some_iff ht.distinct (by simp) (append_ne_hostRoot hname)).mpr hmem
  have hrefuse : refuse (Path.join dir name) = .ok () := by
    obtain ⟨hnul, -, -⟩ := refuse_eq_ok_iff.mp (locate_eq_ok_iff.mp hdir).1
    refine refuse_eq_ok_iff.mpr ⟨fun hmem => ?_, fun hempty => ?_, hshort⟩
    · rcases Path.mem_join hname.noSlash hmem with hdir | hslash | hname'
      · exact hnul hdir
      · exact absurd hslash (by decide)
      · exact hname.noNul hname'
    · have hsteps := Path.steps_join dir hname.noSlash hname.ne_empty
      rw [hempty] at hsteps
      exact List.append_ne_nil_of_right_ne_nil _ (by simp) hsteps.symm
  refine entry?_eq_some_iff.mpr ⟨here ++ [name], ?_, hfound⟩
  have hstep : t.step here name = .ok (here ++ [name]) :=
    (step_fileName hname).mpr ⟨rfl, ⟨m, hhere⟩, by rw [hfound]; rfl⟩
  exact (locate_join hname.noSlash hname.ne_empty).mpr
    ⟨hrefuse, here, walk_of_locate hdir, hstep⟩

end FileTree

end NodeBootstrap
