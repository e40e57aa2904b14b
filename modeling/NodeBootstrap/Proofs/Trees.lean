import NodeBootstrap.Proofs.Paths

/-!
# Trees that grow

* `FileTree.find?_set`, `FileTree.set_set`: what is found after an entry is put into a tree, and
  after it is put in place of another one;
* `FileTree.walk_congr`, `FileTree.locate_congr`: ways depend on what is found only;
* `FileTree.KeepsDirectories`, `FileTree.walk_of_keeps`: a way to a directory stays as long as
  the directories stay;
* `FileTree.call_eq_ok_iff`, `FileTree.call_eq_error_iff`: what a call comes to;
* `FileTree.Grown`: a tree that has become another by new directories along a way only;
* **`FileTree.grown_makeDirs`**: making the directories of a path does nothing else.
-/

namespace NodeBootstrap.FileTree

variable {t u v : FileTree} {names here there other way : List OsText} {name path : OsText}
  {e e' : FileEntry} {mode : Nat}

/-! ## Entries -/

theorem find?_setEntry (names other : List OsText) (e : FileEntry)
    (l : List (List OsText × FileEntry)) :
    ((setEntry names e l).find? fun f => f.1 == other).map (·.2) =
      if other = names then some e else (l.find? fun f => f.1 == other).map (·.2) := by
  induction l with
  | nil =>
    by_cases h : other = names
    · simp [setEntry, h]
    · simp [setEntry, h, Ne.symm h]
  | cons f l ih =>
    rw [setEntry]
    split
    · rename_i hf
      by_cases h : other = names
      · simp [h]
      · simp [h, hf, Ne.symm h]
    · rename_i hf
      by_cases h : f.1 = other
      · simp [h, h ▸ hf]
      · simp [h, ih]

/-- What is found after an entry is put where something other than a directory was. -/
theorem find?_set (h : ∀ m, t.find? names ≠ some (.directory m)) (e : FileEntry)
    (other : List OsText) : (t.set names e).find? other =
      if other = names then some e else t.find? other := by
  have hnames : ¬ (names = [] ∨ names = hostRoot) := fun hn => h 0o755 (by rw [find?, if_pos hn])
  rw [find?, find?]
  by_cases hother : other = [] ∨ other = hostRoot
  · rw [if_pos hother, if_pos hother, if_neg fun heq : other = names => hnames (heq ▸ hother)]
  · rw [if_neg hother, if_neg hother, set, find?_setEntry]

theorem find?_set_self (h : ∀ m, t.find? names ≠ some (.directory m)) (e : FileEntry) :
    (t.set names e).find? names = some e := by
  rw [find?_set h, if_pos rfl]

theorem find?_set_of_ne (h : ∀ m, t.find? names ≠ some (.directory m)) (e : FileEntry)
    (hne : other ≠ names) : (t.set names e).find? other = t.find? other := by
  rw [find?_set h, if_neg hne]

theorem setEntry_setEntry (names : List OsText) (e e' : FileEntry)
    (l : List (List OsText × FileEntry)) :
    setEntry names e (setEntry names e' l) = setEntry names e l := by
  induction l with
  | nil => simp [setEntry]
  | cons f l ih =>
    by_cases h : f.1 = names
    · simp [setEntry, h]
    · simp [setEntry, h, ih]

/-- What is found depends on the entries only. -/
theorem find?_of_entries (h : u.entries = t.entries) : u.find? = t.find? := by
  funext names
  rw [find?, find?, h]

theorem entries_set_set {f : FileEntry} (h : u.entries = (t.set names f).entries) (e : FileEntry) :
    (u.set names e).entries = (t.set names e).entries := by
  rw [set, set, h, set, setEntry_setEntry]

/-! ## Ways -/

theorem step_eq_ok (h : t.step here name = .ok there) :
    ∃ m, t.find? here = some (.directory m) := by
  unfold step at h
  split at h
  · exact ⟨_, ‹_›⟩
  · cases h
  · cases h

/-- A step to a name that is neither a dot nor two. -/
theorem step_name {m : Nat} (hhere : t.find? here = some (.directory m)) (hdot : name ≠ ".")
    (hup : name ≠ "..") (hsize : name.bytes.length ≤ nameLimit)
    (hthere : t.find? (here ++ [name]) = some e) : t.step here name = .ok (here ++ [name]) := by
  simp only [step, hhere, if_neg hdot, if_neg hup, if_neg (Nat.not_lt.mpr hsize), hthere]

theorem walk_append (here way more : List OsText) : t.walk here (way ++ more) =
    match t.walk here way with
    | .ok there => t.walk there more
    | .error e => .error e := by
  induction way generalizing here with
  | nil => rfl
  | cons name way ih =>
    rw [List.cons_append, walk, walk]
    rcases t.step here name with e | next
    · rfl
    · exact ih next

theorem walk_cons_eq_ok_iff : t.walk here (name :: way) = .ok there ↔
    ∃ next, t.step here name = .ok next ∧ t.walk next way = .ok there := by
  rw [walk]
  rcases t.step here name with e | next
  · simp
  · simp

theorem step_congr (h : u.find? = t.find?) : u.step = t.step := by
  funext here name
  rw [step, step, h]

theorem walk_congr (h : u.find? = t.find?) : u.walk = t.walk := by
  funext here way
  induction way generalizing here with
  | nil => rfl
  | cons name way ih =>
    rw [walk, walk, step_congr h]
    rcases t.step here name with e | next
    · rfl
    · exact ih next

theorem locate_congr (h : u.find? = t.find?) : u.locate = t.locate := by
  funext path
  rw [locate, locate, walk_congr h]

theorem locateLast_congr (h : u.find? = t.find?) : u.locateLast = t.locateLast := by
  funext path
  rw [locateLast, locateLast, walk_congr h, h]

/-- Every directory of the one tree is in the other. -/
def KeepsDirectories (t u : FileTree) : Prop :=
  ∀ names m, t.find? names = some (.directory m) → u.find? names = some (.directory m)

theorem exists_directory_of_walk {m : Nat} (h : t.walk here way = .ok there)
    (hthere : t.find? there = some (.directory m)) :
    ∃ m, t.find? here = some (.directory m) := by
  cases way with
  | nil =>
    cases h
    exact ⟨m, hthere⟩
  | cons name way =>
    obtain ⟨next, hstep, -⟩ := walk_cons_eq_ok_iff.mp h
    exact step_eq_ok hstep

theorem step_of_keeps (hk : KeepsDirectories t u) (h : t.step here name = .ok there)
    (hthere : (t.find? there).isSome = true → (u.find? there).isSome = true) :
    u.step here name = .ok there := by
  obtain ⟨k, hhere⟩ := step_eq_ok h
  simp only [step, hhere, hk here k hhere] at h ⊢
  by_cases hdot : name = "."
  · rwa [if_pos hdot] at h ⊢
  by_cases hup : name = ".."
  · rwa [if_neg hdot, if_pos hup] at h ⊢
  by_cases hsize : nameLimit < name.bytes.length
  · rw [if_neg hdot, if_neg hup, if_pos hsize] at h
    cases h
  rw [if_neg hdot, if_neg hup, if_neg hsize] at h ⊢
  split at h
  · rename_i e hfound
    obtain rfl := Except.ok.inj h
    obtain ⟨e', he'⟩ := Option.isSome_iff_exists.mp (hthere (by rw [hfound]; rfl))
    rw [he']
  · cases h

/-- **A way to a directory stays** as long as the directories stay. -/
theorem walk_of_keeps (hk : KeepsDirectories t u) (h : t.walk here way = .ok there) {m : Nat}
    (hthere : t.find? there = some (.directory m)) : u.walk here way = .ok there := by
  induction way generalizing here with
  | nil => exact h
  | cons name way ih =>
    obtain ⟨next, hstep, hwalk⟩ := walk_cons_eq_ok_iff.mp h
    obtain ⟨k, hnext⟩ := exists_directory_of_walk hwalk hthere
    have hfound : (u.find? next).isSome = true := by rw [hk next k hnext]; rfl
    exact walk_cons_eq_ok_iff.mpr ⟨next, step_of_keeps hk hstep fun _ => hfound, ih hwalk⟩

/-! ## Growth -/

/-- Nothing is new in a tree but directories on a way, and nothing else has changed. -/
def Grown (mode : Nat) (origin way : List OsText) (t u : FileTree) : Prop :=
  ∀ names, u.find? names = t.find? names ∨
    t.find? names = none ∧ u.find? names = some (.directory mode) ∧
      ∃ part, part <+: way ∧ u.walk origin part = .ok names

theorem Grown.refl (mode : Nat) (origin way : List OsText) (t : FileTree) :
    Grown mode origin way t t := fun _ => Or.inl rfl

theorem Grown.keepsDirectories {origin : List OsText} (h : Grown mode origin way t u) :
    KeepsDirectories t u := by
  intro names m hm
  rcases h names with hsame | ⟨hnone, -, -⟩
  · rw [hsame, hm]
  · rw [hnone] at hm
    cases hm

theorem Grown.congr {origin : List OsText} (h : Grown mode origin way t u)
    (hfind : v.find? = u.find?) : Grown mode origin way t v := by
  rw [Grown, walk_congr hfind, hfind]
  exact h

theorem Grown.mono {origin longer : List OsText} (h : Grown mode origin way t u)
    (hway : way <+: longer) : Grown mode origin longer t u := by
  intro names
  rcases h names with hsame | ⟨hnone, hnew, part, hpart, hwalk⟩
  · exact Or.inl hsame
  · exact Or.inr ⟨hnone, hnew, part, hpart.trans hway, hwalk⟩

theorem Grown.trans {origin : List OsText} (h : Grown mode origin way t u)
    (h' : Grown mode origin way u v) : Grown mode origin way t v := by
  intro names
  rcases h' names with hsame' | ⟨hnone', hnew', hpart'⟩
  · rcases h names with hsame | ⟨hnone, hnew, part, hpart, hwalk⟩
    · exact Or.inl (hsame'.trans hsame)
    · exact Or.inr ⟨hnone, hsame'.trans hnew, part, hpart,
        walk_of_keeps h'.keepsDirectories hwalk hnew⟩
  · rcases h names with hsame | ⟨-, hnew, -⟩
    · exact Or.inr ⟨hsame.symm.trans hnone', hnew', hpart'⟩
    · rw [hnone'] at hnew
      cases hnew

/-- The last name of a path stands in a directory that the rest of its way leads to. -/
theorem locateLast_eq_ok (h : t.locateLast path = .ok (here, some name)) :
    refuse path = .ok () ∧ ∃ before m, steps path = before ++ [name] ∧
      t.walk (start path) before = .ok here ∧ t.find? here = some (.directory m) := by
  unfold locateLast at h
  rcases hrefuse : refuse path with e | _
  · rw [hrefuse] at h
    cases h
  rcases hlast : (steps path).getLast? with _ | last
  · rw [hrefuse, hlast] at h
    cases h
  rcases hwalk : t.walk (start path) (steps path).dropLast with e | there
  · rw [hrefuse, hlast, hwalk] at h
    cases h
  rw [hrefuse, hlast, hwalk] at h
  dsimp only [bind, Except.bind] at h
  split at h
  · rename_i m hthere
    cases h
    obtain ⟨before, hsteps⟩ := List.getLast?_eq_some_iff.mp hlast
    rw [hsteps, List.dropLast_concat] at hwalk
    exact ⟨rfl, before, m, hsteps, hwalk, hthere⟩
  · cases h

/-- What making a directory does, when it succeeds. -/
theorem makeDir_eq_ok (h : t.makeDir mode path = .ok u) : ∃ here name,
    t.locateLast path = .ok (here, some name) ∧ name ≠ "." ∧ name ≠ ".." ∧
      name.bytes.length ≤ nameLimit ∧ t.find? (here ++ [name]) = none ∧
      u = t.set (here ++ [name]) (.directory mode) := by
  unfold makeDir at h
  rcases hlast : t.locateLast path with e | ⟨here, _ | name⟩
  · rw [hlast] at h
    cases h
  · rw [hlast] at h
    cases h
  rw [hlast] at h
  dsimp only [bind, Except.bind] at h
  split at h
  · cases h
  rename_i hdots
  split at h
  · cases h
  rename_i hsize
  split at h
  · cases h
  rename_i hnone
  cases h
  rw [not_or] at hdots
  exact ⟨here, name, rfl, hdots.1, hdots.2, Nat.not_lt.mp hsize, hnone, rfl⟩

/-- A directory that has been made is where its path leads, and nothing else has changed. -/
theorem walk_makeDir (h : t.makeDir mode path = .ok u) : ∃ names,
    u.walk (start path) (steps path) = .ok names ∧ t.find? names = none ∧
      u.find? names = some (.directory mode) ∧
      ∀ other, other ≠ names → u.find? other = t.find? other := by
  obtain ⟨here, name, hlast, hdot, hup, hsize, hnone, rfl⟩ := makeDir_eq_ok h
  obtain ⟨-, before, m, hsteps, hwalk, hhere⟩ := locateLast_eq_ok hlast
  have hfree : ∀ m, t.find? (here ++ [name]) ≠ some (.directory m) := by simp [hnone]
  have hkeeps : KeepsDirectories t (t.set (here ++ [name]) (.directory mode)) := by
    intro names k hk
    rw [find?_set_of_ne hfree _ fun heq => hfree k (heq ▸ hk), hk]
  have hnew := find?_set_self hfree (.directory mode)
  refine ⟨here ++ [name], ?_, hnone, hnew, fun other hne => find?_set_of_ne hfree _ hne⟩
  rw [hsteps, walk_append, walk_of_keeps hkeeps hwalk hhere]
  exact walk_cons_eq_ok_iff.mpr
    ⟨here ++ [name], step_name (hkeeps here m hhere) hdot hup hsize hnew, rfl⟩

theorem grown_makeDir (h : t.makeDir mode path = .ok u) :
    Grown mode (start path) (steps path) t u := by
  obtain ⟨names, hwalk, hnone, hnew, hothers⟩ := walk_makeDir h
  intro other
  by_cases heq : other = names
  · subst heq
    exact Or.inr ⟨hnone, hnew, steps path, List.prefix_refl _, hwalk⟩
  · exact Or.inl (hothers other heq)

/-! ## Calls -/

section Calls

variable {α : Type} {f : FileTree → Except OsFault (α × FileTree)} {a : α} {fault : OsFault}

@[simp] theorem find?_called (t : FileTree) : t.called.find? = t.find? := rfl

/-- Where nothing goes wrong, calls leave no trace but what they do. -/
theorem called_of_calm (h : t.mishaps = []) : t.called = t := by
  rw [called, h, List.tail_nil, ← h]

theorem mishap?_of_calm (h : t.mishaps = []) : t.mishap? = none := by
  rw [mishap?, h]
  rfl

theorem call_eq_ok_iff :
    call f t = (.ok a, u) ↔ t.mishap? = none ∧ f t.called = .ok (a, u) := by
  unfold call
  rcases t.mishap? with _ | m
  · rcases f t.called with e | ⟨b, v⟩ <;> simp
  · simp

/-- A call that fails does nothing, whether something went wrong or not. -/
theorem call_eq_error_iff : call f t = (.error fault, u) ↔
    u = t.called ∧ ((∃ m, t.mishap? = some m ∧ m.fault = fault) ∨
      t.mishap? = none ∧ f t.called = .error fault) := by
  unfold call
  rcases t.mishap? with _ | m
  · rcases f t.called with e | ⟨b, v⟩
    · simp [and_comm, eq_comm]
    · simp
  · simp [and_comm, eq_comm]

end Calls

/-- What a call does to the tree of which it is made, it does to the one before it. -/
theorem grown_of_called {origin : List OsText} (h : Grown mode origin way t.called u) :
    Grown mode origin way t u := h

theorem mkdir_eq_ok (h : mkdir mode path t = (.ok (), u)) :
    t.called.makeDir mode path = .ok u := by
  obtain ⟨-, hmake⟩ := call_eq_ok_iff.mp h
  rcases hrun : t.called.makeDir mode path with e | v
  · simp [hrun, bind, Except.bind] at hmake
  · simpa [hrun, bind, Except.bind, pure, Except.pure] using hmake

theorem grown_mkdir (mode : Nat) (path : OsText) (t : FileTree) :
    Grown mode (start path) (steps path) t (mkdir mode path t).2 := by
  rcases h : mkdir mode path t with ⟨e | _, u⟩
  · obtain ⟨rfl, -⟩ := call_eq_error_iff.mp h
    exact grown_of_called (Grown.refl _ _ _ t.called)
  · exact grown_of_called (grown_makeDir (mkdir_eq_ok h))

theorem grown_ensureDir (mode : Nat) (path : OsText) (t : FileTree) :
    Grown mode (start path) (steps path) t (ensureDir mode path t).2 := by
  have hgrown := grown_mkdir mode path t
  unfold ensureDir
  rcases h : mkdir mode path t with ⟨e | _, u⟩
  · rw [h] at hgrown
    dsimp only
    split
    · exact hgrown
    · exact hgrown
  · rw [h] at hgrown
    exact hgrown

/-- **Making the directories of a path does nothing else**, whether it succeeds or not. -/
theorem grown_makeDirs (mode fuel : Nat) (path : OsText) (t : FileTree) :
    Grown mode (start path) (steps path) t (makeDirs mode fuel path t).2 := by
  induction fuel generalizing path t with
  | zero => exact Grown.refl _ _ _ t
  | succ fuel ih =>
    have hgrown := grown_mkdir mode path t
    unfold makeDirs
    split
    · exact Grown.refl _ _ _ t
    split
    · rename_i hmake
      rwa [hmake] at hgrown
    · rename_i v hmake
      rw [hmake] at hgrown
      split
      · exact hgrown
      · rename_i parent hparent
        obtain ⟨hstart, hsteps⟩ := Path.parent_way hparent
        have habove := ih parent v
        rw [hstart] at habove
        replace habove := habove.mono (hsteps.trans (List.dropLast_prefix _))
        rcases hrun : makeDirs mode fuel parent v with ⟨_ | _, u⟩
        · rw [hrun] at habove
          exact hgrown.trans habove
        · rw [hrun] at habove
          exact (hgrown.trans habove).trans (grown_ensureDir mode path u)
    · rename_i v _ hmake
      rw [hmake] at hgrown
      split
      · exact hgrown
      · exact hgrown

end NodeBootstrap.FileTree
