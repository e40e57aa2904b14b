import NodeBootstrap.Files.Private
import NodeBootstrap.Proofs.Act
import NodeBootstrap.Proofs.Trees

/-!
# What writing a private file does

* `PrivateFile.prepare_of_parent`, `PrivateFile.grown_prepare`: the directories that are made;
* `PrivateFile.Fillable`, `PrivateFile.openNew_eq_ok_iff`: where a text can be put into a file;
* `PrivateFile.Spoiled`, **`PrivateFile.put_cases`**: what putting it there comes to;
* `PrivateFile.spoiled_write_of_error`: what a failure leaves;
* **`PrivateFile.entry?_write`**: after a success the path leads to the text, for its owner only;
* `PrivateFile.Confined`, **`PrivateFile.confined_write`**: nothing else changes but missing
  directories above the file.
-/

namespace NodeBootstrap

open FileTree

namespace PrivateFile

variable {t u : FileTree} {path name : OsText} {text : String} {here names : List OsText}
  {mode : Nat} {content : Content} {e : Failure} {fault : OsFault}

/-! ## The directories -/

theorem prepare_of_no_parent (h : Path.parent? path = none) (t : FileTree) :
    prepare path t = (.ok (), t) := by
  rw [prepare, h]

/-- What is prepared for a path are the directories of its parent. -/
theorem prepare_of_parent {parent : OsText} (h : Path.parent? path = some parent) (t : FileTree) :
    prepare path t =
      ((makeDirs dirMode (parent.bytes.length + 1) parent t).1.mapError (.filesystem parent),
        (makeDirs dirMode (parent.bytes.length + 1) parent t).2) := by
  rw [prepare, h]
  dsimp only
  rcases makeDirs dirMode (parent.bytes.length + 1) parent t with ⟨fault | _, u⟩
  · rfl
  · rfl

theorem grown_prepare (path : OsText) (t : FileTree) :
    Grown dirMode (start path) (steps path).dropLast t (prepare path t).2 := by
  rcases hparent : Path.parent? path with _ | parent
  · rw [prepare_of_no_parent hparent]
    exact Grown.refl _ _ _ t
  · obtain ⟨hstart, hsteps⟩ := Path.parent_way hparent
    have hdirs := grown_makeDirs dirMode (parent.bytes.length + 1) parent t
    rw [hstart] at hdirs
    rw [prepare_of_parent hparent]
    exact hdirs.mono hsteps

/-! ## The file -/

/-- What makes a name in a directory the place for the text of a path. -/
structure Fillable (path : OsText) (t : FileTree) (here : List OsText) (name : OsText) : Prop where
  last : t.locateLast path = .ok (here, some name)
  noSlash : Path.endsInSlash path = false
  ne_dot : name ≠ "."
  ne_up : name ≠ ".."
  short : name.bytes.length ≤ nameLimit
  free : ∀ m, t.find? (here ++ [name]) ≠ some (.directory m)

theorem Fillable.congr (h : Fillable path t here name) (hfind : u.find? = t.find?) :
    Fillable path u here name :=
  { h with
    last := by rw [locateLast_congr hfind, h.last]
    free := by rw [hfind]; exact h.free }

/-- A file is opened in a place for it, and emptied; it has the permissions that it had. -/
theorem openNew_eq_ok_iff : openNew mode path t = .ok (names, u) ↔ ∃ here name,
    Fillable path t here name ∧ names = here ++ [name] ∧
      ∃ m, ((∃ c, t.find? names = some (.file m c)) ∨ t.find? names = none ∧ m = mode) ∧
        u = t.set names (.file m (.text "")) := by
  constructor
  · intro h
    unfold openNew at h
    rcases hlast : t.locateLast path with e | ⟨here, _ | name⟩
    · rw [hlast] at h
      cases h
    · rw [hlast] at h
      cases h
    rw [hlast] at h
    dsimp only [bind, Except.bind] at h
    split at h
    · cases h
    rename_i hslash
    split at h
    · cases h
    rename_i hdots
    split at h
    · cases h
    rename_i hsize
    rw [not_or] at hdots
    have hfillable (hfree : ∀ m, t.find? (here ++ [name]) ≠ some (.directory m)) :
        Fillable path t here name :=
      ⟨hlast, by simpa using hslash, hdots.1, hdots.2, Nat.not_lt.mp hsize, hfree⟩
    split at h
    · cases h
    · rename_i m c hfile
      cases h
      exact ⟨here, name, hfillable (by simp [hfile]), rfl, m, .inl ⟨c, hfile⟩, rfl⟩
    · rename_i hnone
      cases h
      exact ⟨here, name, hfillable (by simp [hnone]), rfl, mode, .inr ⟨hnone, rfl⟩, rfl⟩
  · rintro ⟨here, name, ⟨hlast, hslash, hdot, hup, hsize, hfree⟩, rfl, m, hm, rfl⟩
    simp only [openNew, hlast, bind, Except.bind, hslash, hdot, hup, or_self, if_false,
      if_neg (Nat.not_lt.mpr hsize), Bool.false_eq_true]
    rcases hm with ⟨c, hfile⟩ | ⟨hnone, rfl⟩
    · rw [hfile]
      rfl
    · rw [hnone]
      rfl

/-- What is left in a file when something goes wrong after it has been opened: a beginning of the
text, or nothing and the permissions that the file had. -/
def Spoiled (text : String) (before : Option FileEntry) (mode : Nat) (content : Content) : Prop :=
  mode = fileMode ∧ content.octets <+: Utf8.encode text ∨
    content = .text "" ∧ ∃ c, before = some (.file mode c)

/-- A text is written to an open file, or a beginning of it is. -/
theorem writeAll_cases (mode : Nat) (names : List OsText) (text : String) (t : FileTree) :
    writeAll mode names text t = (.ok (), t.called.set names (.file mode (.text text))) ∨
      ∃ fault content, content.octets <+: Utf8.encode text ∧
        writeAll mode names text t = (.error fault, t.called.set names (.file mode content)) := by
  unfold writeAll
  split
  · refine .inr ⟨_, _, ?_, rfl⟩
    rw [Content.octets_ofOctets]
    exact List.take_prefix _ _
  · exact .inl rfl

/-- **A text is put into a file**, whatever was there but a directory. Or else nothing is done, or
something goes wrong after the file has been opened. -/
theorem put_cases (path : OsText) (text : String) (t : FileTree) : match put path text t with
    | (.ok (), u) => ∃ here name, Fillable path t here name ∧
        u.entries = (t.set (here ++ [name]) (.file fileMode (.text text))).entries
    | (.error _, u) => u.entries = t.entries ∨ ∃ here name mode content,
        Fillable path t here name ∧ Spoiled text (t.find? (here ++ [name])) mode content ∧
          u.entries = (t.set (here ++ [name]) (.file mode content)).entries := by
  unfold put
  rcases hopen : call (openNew fileMode path) t with ⟨fault | names, u⟩
  · obtain ⟨rfl, -⟩ := call_eq_error_iff.mp hopen
    exact .inl rfl
  obtain ⟨-, hopen⟩ := call_eq_ok_iff.mp hopen
  obtain ⟨here, name, hfillable, rfl, m, hm, rfl⟩ := openNew_eq_ok_iff.mp hopen
  replace hfillable := hfillable.congr (find?_called t).symm
  rw [find?_called] at hm
  dsimp only
  rcases hrestrict : restrict fileMode (here ++ [name]) (t.called.set (here ++ [name])
    (.file m (.text ""))) with ⟨fault | _, v⟩
  · obtain ⟨rfl, -⟩ := call_eq_error_iff.mp hrestrict
    refine .inr ⟨here, name, m, .text "", hfillable, ?_, rfl⟩
    rcases hm with hfile | ⟨-, rfl⟩
    · exact .inr ⟨rfl, hfile⟩
    · exact .inl ⟨rfl, List.nil_prefix⟩
  have hv : v.entries = (t.set (here ++ [name]) (.file fileMode (.text ""))).entries := by
    obtain ⟨-, hset⟩ := call_eq_ok_iff.mp hrestrict
    obtain ⟨-, rfl⟩ := Prod.mk.inj (Except.ok.inj hset)
    exact entries_set_set (t := t) (f := .file m (.text "")) rfl _
  dsimp only
  rcases writeAll_cases fileMode (here ++ [name]) text v with hwrite | ⟨_, c, hbegins, hwrite⟩
  · rw [hwrite]
    exact ⟨here, name, hfillable, entries_set_set hv _⟩
  · rw [hwrite]
    exact .inr ⟨here, name, fileMode, c, hfillable, .inl ⟨rfl, hbegins⟩, entries_set_set hv _⟩

/-- The file that a path leads to once something has been put into it. -/
structure Filled (path : OsText) (mode : Nat) (content : Content) (names : List OsText)
    (t u : FileTree) : Prop where
  free : ∀ m, t.find? names ≠ some (.directory m)
  found : u.find? names = some (.file mode content)
  others : ∀ other, other ≠ names → u.find? other = t.find? other
  located : u.locate path = .ok names

theorem Filled.keepsDirectories (h : Filled path mode content names t u) :
    KeepsDirectories t u := by
  intro other m hm
  rw [h.others other fun heq => h.free m (heq ▸ hm), hm]

theorem Fillable.filled (h : Fillable path t here name)
    (hu : u.entries = (t.set (here ++ [name]) (.file mode content)).entries) :
    Filled path mode content (here ++ [name]) t u := by
  obtain ⟨hlast, hslash, hdot, hup, hsize, hfree⟩ := h
  obtain ⟨hrefuse, before, k, hsteps, hwalk, hhere⟩ := locateLast_eq_ok hlast
  have hfind : u.find? = (t.set (here ++ [name]) (.file mode content)).find? := find?_of_entries hu
  have hfound : u.find? (here ++ [name]) = some (.file mode content) := by
    rw [hfind, find?_set_self hfree]
  have hothers : ∀ other, other ≠ here ++ [name] → u.find? other = t.find? other :=
    fun other hne => by rw [hfind, find?_set_of_ne hfree _ hne]
  have hkeeps : KeepsDirectories t u := fun other j hj =>
    (hothers other fun heq => hfree j (heq ▸ hj)).trans hj
  refine ⟨hfree, hfound, hothers, ?_⟩
  rw [locate, hrefuse, hslash, hsteps]
  change walk _ (start path) (before ++ [name] ++ []) = _
  rw [List.append_nil, walk_append, walk_of_keeps hkeeps hwalk hhere]
  exact walk_cons_eq_ok_iff.mpr
    ⟨here ++ [name], step_name (hkeeps here k hhere) hdot hup hsize hfound, rfl⟩

theorem fill_eq_ok_iff : fill path text t = (.ok (), u) ↔ put path text t = (.ok (), u) := by
  unfold fill
  rcases put path text t with ⟨fault | _, v⟩ <;> simp

theorem fill_eq_error_iff : fill path text t = (.error e, u) ↔
    ∃ fault, put path text t = (.error fault, u) ∧ e = .filesystem path fault := by
  unfold fill
  rcases put path text t with ⟨fault | _, v⟩
  · constructor
    · intro h
      cases h
      exact ⟨fault, rfl, rfl⟩
    · rintro ⟨fault', hput, rfl⟩
      cases hput
      rfl
  · simp

/-- A text has been put into a file where it could be put, and nothing else has been done. -/
theorem fillable_of_fill (h : fill path text t = (.ok (), u)) : ∃ here name,
    Fillable path t here name ∧
      u.entries = (t.set (here ++ [name]) (.file fileMode (.text text))).entries := by
  have hcases := put_cases path text t
  rwa [fill_eq_ok_iff.mp h] at hcases

theorem filled_of_fill (h : fill path text t = (.ok (), u)) :
    ∃ names, Filled path fileMode (.text text) names t u := by
  obtain ⟨here, name, hfillable, hentries⟩ := fillable_of_fill h
  exact ⟨_, hfillable.filled hentries⟩

/-- Where a text is not put into a file, it is as it was, or spoiled. -/
theorem spoiled_of_fill (h : fill path text t = (.error e, u)) : u.find? = t.find? ∨
    ∃ names mode content, Filled path mode content names t u ∧
      Spoiled text (t.find? names) mode content := by
  obtain ⟨fault, hput, -⟩ := fill_eq_error_iff.mp h
  have hcases := put_cases path text t
  rw [hput] at hcases
  rcases hcases with hsame | ⟨here, name, mode, content, hfillable, hspoiled, hu⟩
  · exact .inl (find?_of_entries hsame)
  · exact .inr ⟨_, mode, content, hfillable.filled hu, hspoiled⟩

/-! ## Writing -/

theorem exec_write (path : OsText) (text : String) (t : FileTree) : (write path text).exec t =
    match prepare path t with
    | (.ok (), w) => fill path text w
    | (.error e, w) => (.error e, w) := by
  rw [write, Act.exec_bind, Act.exec_of]
  rcases prepare path t with ⟨_ | _, w⟩
  · rfl
  · rfl

theorem write_eq_ok (h : (write path text).exec t = (.ok (), u)) : ∃ w,
    prepare path t = (.ok (), w) ∧ fill path text w = (.ok (), u) := by
  rw [exec_write] at h
  rcases hprepare : prepare path t with ⟨e | _, w⟩
  · rw [hprepare] at h
    cases h
  · rw [hprepare] at h
    exact ⟨w, rfl, h⟩

/-- Either the directories are not made, or the file is not filled. -/
theorem write_eq_error (h : (write path text).exec t = (.error e, u)) :
    prepare path t = (.error e, u) ∨
      ∃ w, prepare path t = (.ok (), w) ∧ fill path text w = (.error e, u) := by
  rw [exec_write] at h
  rcases hprepare : prepare path t with ⟨e | _, w⟩
  · rw [hprepare] at h
    exact .inl h
  · rw [hprepare] at h
    exact .inr ⟨w, rfl, h⟩

/-- A failure leaves nothing but new directories above the file, or a file that is spoiled. -/
theorem spoiled_write_of_error (h : (write path text).exec t = (.error e, u)) : ∃ w,
    Grown dirMode (start path) (steps path).dropLast t w ∧
      (u.find? = w.find? ∨ ∃ names mode content, Filled path mode content names w u ∧
        Spoiled text (w.find? names) mode content) := by
  have hgrown := grown_prepare path t
  rcases write_eq_error h with hprepare | ⟨w, hprepare, hfill⟩
  · rw [hprepare] at hgrown
    exact ⟨u, hgrown, .inl rfl⟩
  · rw [hprepare] at hgrown
    exact ⟨w, hgrown, spoiled_of_fill hfill⟩

/-- A success is new directories above the file, and then the file. -/
theorem filled_write_of_ok (h : (write path text).exec t = (.ok (), u)) :
    ∃ w names, Grown dirMode (start path) (steps path).dropLast t w ∧
      Filled path fileMode (.text text) names w u := by
  obtain ⟨w, hprepare, hfill⟩ := write_eq_ok h
  have hgrown := grown_prepare path t
  rw [hprepare] at hgrown
  obtain ⟨names, hfilled⟩ := filled_of_fill hfill
  exact ⟨w, names, hgrown, hfilled⟩

/-- **After a success the path leads to the text**, which only its owner may read. -/
theorem entry?_write (h : (write path text).exec t = (.ok (), u)) :
    u.entry? path = some (.file fileMode (.text text)) := by
  obtain ⟨w, names, -, hfilled⟩ := filled_write_of_ok h
  unfold entry?
  rw [hfilled.located]
  exact hfilled.found

/-- Two trees that differ in nothing but the file of a path and directories above it that one of
them lacks. -/
def Confined (path : OsText) (t u : FileTree) : Prop :=
  ∀ names, u.find? names = t.find? names ∨ u.locate path = .ok names ∨
    t.find? names = none ∧ u.find? names = some (.directory dirMode) ∧
      ∃ part, part <+: (steps path).dropLast ∧ u.walk (start path) part = .ok names

theorem Grown.confined (h : Grown dirMode (start path) (steps path).dropLast t u) :
    Confined path t u := fun names => (h names).imp_right .inr

theorem Filled.confined {w : FileTree} (h : Filled path mode content names w u)
    (hgrown : Grown dirMode (start path) (steps path).dropLast t w) : Confined path t u := by
  intro other
  by_cases hfile : other = names
  · exact .inr (.inl (hfile ▸ h.located))
  · rcases hgrown other with hsame | ⟨hnone, hnew, part, hpart, hwalk⟩
    · exact .inl ((h.others other hfile).trans hsame)
    · exact .inr (.inr ⟨hnone, (h.others other hfile).trans hnew, part, hpart,
        walk_of_keeps h.keepsDirectories hwalk hnew⟩)

/-- **Writing changes nothing but the file and missing directories above it**, whether it succeeds
or not. -/
theorem confined_write (path : OsText) (text : String) (t : FileTree) :
    Confined path t ((write path text).exec t).2 := by
  rcases h : (write path text).exec t with ⟨e | _, u⟩
  · obtain ⟨w, hgrown, hsame | ⟨names, mode, content, hfilled, -⟩⟩ := spoiled_write_of_error h
    · exact Grown.confined (hgrown.congr hsame)
    · exact hfilled.confined hgrown
  · obtain ⟨w, file, hgrown, hfilled⟩ := filled_write_of_ok h
    exact hfilled.confined hgrown

end PrivateFile

end NodeBootstrap
