import NodeBootstrap.Proofs.Parents

/-!
# Making directories

Directories are made from the outermost on that is missing. What has been made stays when a later
one cannot be made, and then none can be made the next time.

* `FileTree.isSome_of_walk`: whatever a way leads to is there;
* `FileTree.makeDir_eq_error`: why a directory is not made;
* `FileTree.Made`, `FileTree.makeDirs_eq_iff`: what making directories comes to;
* `FileTree.Made.isDirectory`, **`FileTree.Made.again`**: what has been made once stays as it is;
* `FileTree.Blocked`, **`FileTree.Made.blocked`**: it fails only if something stands in the way.
-/

namespace NodeBootstrap.FileTree

variable {t u : FileTree} {here there way before : List OsText} {name path parent : OsText}
  {mode fuel : Nat} {fault : OsFault} {result : Except OsFault Unit}

/-! ## What ways lead to -/

/-- All that some names lead through are directories. -/
def Nested (t : FileTree) (names : List OsText) : Prop :=
  ∀ part, part <+: names → part ≠ names → ∃ m, t.find? part = some (.directory m)

theorem find?_start (t : FileTree) (path : OsText) :
    t.find? (start path) = some (.directory 0o755) := by
  unfold start
  split <;> rfl

theorem nested_start (t : FileTree) (path : OsText) : t.Nested (start path) := by
  intro part hpart hne
  have hnil : part = [] := by
    unfold start at hpart hne
    split at hpart
    · rename_i habsolute
      rw [if_pos habsolute] at hne
      cases part with
      | nil => rfl
      | cons p ps =>
        obtain ⟨rfl, hps⟩ := List.cons_prefix_cons.mp hpart
        exact absurd (by rw [List.prefix_nil.mp hps]; rfl) hne
    · exact List.prefix_nil.mp hpart
  exact ⟨0o755, by rw [hnil]; rfl⟩

theorem Nested.dropLast (h : t.Nested here) : t.Nested here.dropLast := by
  intro part hpart hne
  refine h part (hpart.trans (List.dropLast_prefix here)) fun heq => hne ?_
  subst heq
  exact hpart.eq_of_length_le (List.dropLast_prefix part).length_le

theorem nested_step (hhere : t.Nested here) (h : t.step here name = .ok there) :
    t.Nested there ∧ (t.find? there).isSome = true := by
  obtain ⟨m, hdir⟩ := step_eq_ok h
  have hfound : (t.find? here).isSome = true := by rw [hdir]; rfl
  rw [step, hdir] at h
  dsimp only at h
  split at h
  · obtain rfl := Except.ok.inj h
    exact ⟨hhere, hfound⟩
  split at h
  · obtain rfl := Except.ok.inj h
    split
    · exact ⟨hhere, hfound⟩
    · refine ⟨hhere.dropLast, ?_⟩
      by_cases hsame : here.dropLast = here
      · rwa [hsame]
      · obtain ⟨k, hup⟩ := hhere _ (List.dropLast_prefix here) hsame
        rw [hup]
        rfl
  split at h
  · cases h
  split at h
  · rename_i e he
    obtain rfl := Except.ok.inj h
    refine ⟨fun part hpart hne => ?_, by rw [he]; rfl⟩
    rcases List.prefix_concat_iff.mp hpart with heq | hinside
    · exact absurd heq hne
    · by_cases hsame : part = here
      · exact ⟨m, hsame ▸ hdir⟩
      · exact hhere part hinside hsame
  · cases h

theorem nested_walk (hhere : t.Nested here) (hfound : (t.find? here).isSome = true)
    (h : t.walk here way = .ok there) : (t.find? there).isSome = true := by
  induction way generalizing here with
  | nil => exact Except.ok.inj h ▸ hfound
  | cons name way ih =>
    obtain ⟨next, hstep, hwalk⟩ := walk_cons_eq_ok_iff.mp h
    obtain ⟨hnext, hsome⟩ := nested_step hhere hstep
    exact ih hnext hsome hwalk

/-- Whatever a way leads to is there. -/
theorem isSome_of_walk (h : t.walk (start path) way = .ok there) :
    (t.find? there).isSome = true :=
  nested_walk (nested_start t path) (by rw [find?_start]; rfl) h

theorem walk_append_of_error {more : List OsText} (h : t.walk here way = .error fault) :
    t.walk here (way ++ more) = .error fault := by
  rw [walk_append, h]

/-- No way goes on from a file. -/
theorem walk_from_file {m : Nat} {c : Content} {more : List OsText}
    (h : t.walk here way = .ok there) (hfile : t.find? there = some (.file m c)) :
    t.walk here (way ++ name :: more) = .error .notDirectory := by
  simp only [walk_append, h, walk, step, hfile]

/-- A path leads to a directory if its way does. -/
theorem isDirectory_iff : t.isDirectory path = true ↔ refuse path = .ok () ∧
    ∃ there m, t.walk (start path) (steps path) = .ok there ∧
      t.find? there = some (.directory m) := by
  constructor
  · intro h
    rw [isDirectory] at h
    rcases hentry : t.entry? path with _ | ⟨m, c⟩ | m
    · simp [hentry] at h
    · simp [hentry, FileEntry.isDirectory] at h
    · obtain ⟨there, hlocate, hthere⟩ := entry?_eq_some_iff.mp hentry
      exact ⟨(locate_eq_ok_iff.mp hlocate).1, there, m, walk_of_locate hlocate, hthere⟩
  · rintro ⟨hrefuse, there, m, hwalk, hthere⟩
    have hlocate : t.locate path = .ok there := by
      refine locate_eq_ok_iff.mpr ⟨hrefuse, ?_⟩
      rw [walk_append, hwalk]
      refine walk_dots (fun d hd => ?_) hthere
      split at hd
      · exact List.mem_singleton.mp hd
      · cases hd
    rw [isDirectory, entry?_eq_some_iff.mpr ⟨there, hlocate, hthere⟩]
    rfl

/-! ## One directory -/

/-- Why the last name of a path has no place. -/
theorem locateLast_eq_error (h : t.locateLast path = .error fault) :
    refuse path = .error fault ∨ ∃ before name, steps path = before ++ [name] ∧
      (t.walk (start path) before = .error fault ∨
        fault = .notDirectory ∧ t.walk (start path) (steps path) = .error fault) := by
  unfold locateLast at h
  rcases hrefuse : refuse path with e | _
  · rw [hrefuse] at h
    cases h
    exact Or.inl rfl
  rcases hlast : (steps path).getLast? with _ | name
  · rw [hrefuse, hlast] at h
    cases h
  obtain ⟨before, hsteps⟩ := List.getLast?_eq_some_iff.mp hlast
  rw [hrefuse, hlast, hsteps, List.dropLast_concat] at h
  refine Or.inr ⟨before, name, hsteps, ?_⟩
  rcases hwalk : t.walk (start path) before with e | here
  · rw [hwalk] at h
    exact Or.inl (Except.error.inj h ▸ rfl)
  rw [hwalk] at h
  dsimp only [bind, Except.bind] at h
  split at h
  · cases h
  · rename_i hno
    obtain rfl := (Except.error.inj h).symm
    obtain ⟨e, he⟩ := Option.isSome_iff_exists.mp (isSome_of_walk hwalk)
    cases e with
    | directory m => exact absurd he (hno m)
    | file m c => exact Or.inr ⟨rfl, hsteps ▸ walk_from_file hwalk he⟩

theorem locateLast_eq_none (h : t.locateLast path = .ok (here, none)) :
    refuse path = .ok () ∧ steps path = [] := by
  unfold locateLast at h
  rcases hrefuse : refuse path with e | _
  · rw [hrefuse] at h
    cases h
  rcases hlast : (steps path).getLast? with _ | name
  · exact ⟨rfl, List.getLast?_eq_none_iff.mp hlast⟩
  rcases hwalk : t.walk (start path) (steps path).dropLast with e | there
  · rw [hrefuse, hlast, hwalk] at h
    cases h
  rw [hrefuse, hlast, hwalk] at h
  dsimp only [bind, Except.bind] at h
  split at h <;> cases h

/-- The way of a path is one step longer than the way to where its last name stands. -/
theorem walk_of_locateLast (h : t.locateLast path = .ok (here, some name)) :
    t.walk (start path) (steps path) = t.step here name := by
  obtain ⟨-, before, m, hsteps, hwalk, -⟩ := locateLast_eq_ok h
  rw [hsteps, walk_append, hwalk]
  dsimp only
  rw [walk]
  rcases t.step here name with e | next <;> rfl

/-- Why a directory is not made: its path is of no use, the way to it does not exist or leads
through what is no directory, its name is too long, or something is there already. -/
theorem makeDir_eq_error (h : t.makeDir mode path = .error fault) :
    refuse path = .error fault ∨
      (∃ before name, steps path = before ++ [name] ∧
        t.walk (start path) before = .error fault) ∨
      fault ≠ .notFound ∧ t.walk (start path) (steps path) = .error fault ∨
      fault = .alreadyExists ∧ ∃ there, t.walk (start path) (steps path) = .ok there := by
  unfold makeDir at h
  rcases hlast : t.locateLast path with e | ⟨here, _ | name⟩
  · rw [hlast] at h
    cases h
    rcases locateLast_eq_error hlast with hrefuse | ⟨before, name, hsteps, hway | ⟨rfl, hway⟩⟩
    · exact Or.inl hrefuse
    · exact Or.inr (Or.inl ⟨before, name, hsteps, hway⟩)
    · exact Or.inr (Or.inr (Or.inl ⟨by simp, hway⟩))
  · rw [hlast] at h
    cases h
    exact Or.inr (Or.inr (Or.inr ⟨rfl, start path, by rw [(locateLast_eq_none hlast).2]; rfl⟩))
  obtain ⟨-, before, m, -, -, hhere⟩ := locateLast_eq_ok hlast
  rw [walk_of_locateLast hlast, step, hhere]
  rw [hlast] at h
  dsimp only [bind, Except.bind] at h ⊢
  split at h
  · rename_i hdots
    cases h
    refine Or.inr (Or.inr (Or.inr ⟨rfl, ?_⟩))
    rcases hdots with rfl | rfl
    · exact ⟨here, rfl⟩
    · exact ⟨_, by rw [if_neg (by decide), if_pos rfl]⟩
  rename_i hdots
  rw [not_or] at hdots
  rw [if_neg hdots.1, if_neg hdots.2]
  split at h
  · rename_i hlong
    cases h
    exact Or.inr (Or.inr (Or.inl ⟨by simp, by rw [if_pos hlong]⟩))
  rename_i hshort
  rw [if_neg hshort]
  split at h
  · rename_i e he
    cases h
    exact Or.inr (Or.inr (Or.inr ⟨rfl, here ++ [name], rfl⟩))
  · cases h

/-- Nothing was there where a directory is made. -/
theorem walk_of_makeDir (h : t.makeDir mode path = .ok u) :
    refuse path = .ok () ∧ t.walk (start path) (steps path) = .error .notFound := by
  obtain ⟨here, name, hlast, hdot, hup, hsize, hnone, -⟩ := makeDir_eq_ok h
  obtain ⟨hrefuse, before, m, -, -, hhere⟩ := locateLast_eq_ok hlast
  refine ⟨hrefuse, ?_⟩
  rw [walk_of_locateLast hlast]
  simp only [step, hhere, if_neg hdot, if_neg hup, if_neg (Nat.not_lt.mpr hsize), hnone]

/-- Where something is, no directory is made. -/
theorem makeDir_of_walk (hrefuse : refuse path = .ok ())
    (hwalk : t.walk (start path) (steps path) = .ok there) :
    t.makeDir mode path = .error .alreadyExists := by
  rcases h : t.makeDir mode path with fault | u
  · rcases makeDir_eq_error h with hno | ⟨before, name, hsteps, hno⟩ | ⟨-, hno⟩ | ⟨rfl, -⟩
    · rw [hno] at hrefuse
      cases hrefuse
    · rw [hsteps, walk_append_of_error hno] at hwalk
      cases hwalk
    · rw [hno] at hwalk
      cases hwalk
    · rfl
  · rw [(walk_of_makeDir h).2] at hwalk
    cases hwalk

/-- A directory that has been made is there. -/
theorem isDirectory_of_makeDir (h : t.makeDir mode path = .ok u) : u.isDirectory path = true := by
  obtain ⟨names, hwalk, -, hnew, -⟩ := walk_makeDir h
  exact isDirectory_iff.mpr ⟨(walk_of_makeDir h).1, names, mode, hwalk, hnew⟩

/-- What it comes to that a directory is made unless it is there. -/
def ensured (mode : Nat) (path : OsText) (t : FileTree) : Except OsFault Unit × FileTree :=
  match t.makeDir mode path with
  | .ok u => (.ok (), u)
  | .error fault => if t.isDirectory path then (.ok (), t) else (.error fault, t)

theorem ensured_of_ok (h : t.makeDir mode path = .ok u) : ensured mode path t = (.ok (), u) := by
  rw [ensured, h]

theorem ensured_of_error (h : t.makeDir mode path = .error fault) : ensured mode path t =
    if t.isDirectory path then (.ok (), t) else (.error fault, t) := by
  rw [ensured, h]

theorem mkdir_of_calm (hcalm : t.mishaps = []) : mkdir mode path t =
    match t.makeDir mode path with
    | .ok u => (.ok (), u)
    | .error fault => (.error fault, t) := by
  rw [mkdir, call, mishap?_of_calm hcalm, called_of_calm hcalm]
  rcases t.makeDir mode path with fault | u <;> rfl

theorem ensureDir_of_calm (hcalm : t.mishaps = []) :
    ensureDir mode path t = ensured mode path t := by
  rw [ensureDir, mkdir_of_calm hcalm, ensured]
  rcases t.makeDir mode path with fault | u <;> rfl

theorem mishaps_of_makeDir (h : t.makeDir mode path = .ok u) : u.mishaps = t.mishaps := by
  obtain ⟨here, name, -, -, -, -, -, rfl⟩ := makeDir_eq_ok h
  rfl

theorem mishaps_ensured (mode : Nat) (path : OsText) (t : FileTree) :
    (ensured mode path t).2.mishaps = t.mishaps := by
  rcases hmake : t.makeDir mode path with fault | u
  · rw [ensured_of_error hmake]
    split <;> rfl
  · rw [ensured_of_ok hmake]
    exact mishaps_of_makeDir hmake

/-- What it comes to that a directory is made with those above it that are missing, where nothing
goes wrong. -/
inductive Made (mode : Nat) : OsText → FileTree → Except OsFault Unit × FileTree → Prop
  | empty {t : FileTree} : Made mode "" t (.ok (), t)
  | last {path : OsText} {t : FileTree} (hpath : path ≠ "")
      (h : t.makeDir mode path ≠ .error .notFound) : Made mode path t (ensured mode path t)
  | alone {path : OsText} {t : FileTree} (hpath : path ≠ "")
      (h : t.makeDir mode path = .error .notFound) (hparent : Path.parent? path = none) :
      Made mode path t (.error .notFound, t)
  | stopped {path parent : OsText} {t u : FileTree} {fault : OsFault} (hpath : path ≠ "")
      (h : t.makeDir mode path = .error .notFound) (hparent : Path.parent? path = some parent)
      (hmade : Made mode parent t (.error fault, u)) : Made mode path t (.error fault, u)
  | after {path parent : OsText} {t u : FileTree} (hpath : path ≠ "")
      (h : t.makeDir mode path = .error .notFound) (hparent : Path.parent? path = some parent)
      (hmade : Made mode parent t (.ok (), u)) : Made mode path t (ensured mode path u)

theorem Made.mishaps {out : Except OsFault Unit × FileTree} (h : Made mode path t out) :
    out.2.mishaps = t.mishaps := by
  induction h with
  | empty => rfl
  | last => exact mishaps_ensured mode _ _
  | alone => rfl
  | stopped _ _ _ _ ih => exact ih
  | after _ _ _ _ ih => exact (mishaps_ensured mode _ _).trans ih

/-- It comes to nothing else. -/
theorem Made.makeDirs_eq {out : Except OsFault Unit × FileTree} (h : Made mode path t out)
    (hcalm : t.mishaps = []) (hfuel : path.bytes.length < fuel) :
    makeDirs mode fuel path t = out := by
  induction h generalizing fuel with
  | empty =>
    obtain ⟨fuel, rfl⟩ := Nat.exists_eq_succ_of_ne_zero (Nat.ne_zero_of_lt hfuel)
    rw [makeDirs, if_pos rfl]
  | @last path t hpath h =>
    obtain ⟨fuel, rfl⟩ := Nat.exists_eq_succ_of_ne_zero (Nat.ne_zero_of_lt hfuel)
    rw [makeDirs, if_neg hpath, mkdir_of_calm hcalm]
    rcases hmake : t.makeDir mode path with fault | u
    · rw [ensured_of_error hmake]
      cases fault with
      | notFound => exact absurd hmake h
      | _ => rfl
    · rw [ensured_of_ok hmake]
  | @alone path t hpath h hparent =>
    obtain ⟨fuel, rfl⟩ := Nat.exists_eq_succ_of_ne_zero (Nat.ne_zero_of_lt hfuel)
    rw [makeDirs, if_neg hpath, mkdir_of_calm hcalm, h, hparent]
  | @stopped path parent t u fault hpath h hparent _ ih =>
    obtain ⟨fuel, rfl⟩ := Nat.exists_eq_succ_of_ne_zero (Nat.ne_zero_of_lt hfuel)
    have hshorter := Path.parent_shorter hparent
    have habove : makeDirs mode fuel parent t = (.error fault, u) := ih hcalm (by omega)
    simp only [makeDirs, if_neg hpath, mkdir_of_calm hcalm, h, hparent, habove]
  | @after path parent t u hpath h hparent hmade ih =>
    obtain ⟨fuel, rfl⟩ := Nat.exists_eq_succ_of_ne_zero (Nat.ne_zero_of_lt hfuel)
    have hshorter := Path.parent_shorter hparent
    have habove : makeDirs mode fuel parent t = (.ok (), u) := ih hcalm (by omega)
    simp only [makeDirs, if_neg hpath, mkdir_of_calm hcalm, h, hparent, habove]
    exact ensureDir_of_calm (hmade.mishaps.trans hcalm)

theorem Made.unique {out out' : Except OsFault Unit × FileTree} (hcalm : t.mishaps = [])
    (h : Made mode path t out) (h' : Made mode path t out') : out = out' :=
  (h.makeDirs_eq hcalm (Nat.lt_succ_self _)).symm.trans (h'.makeDirs_eq hcalm (Nat.lt_succ_self _))

theorem isDirectory_of_ensured (h : ensured mode path t = (.ok (), u)) :
    u.isDirectory path = true := by
  rcases hmake : t.makeDir mode path with fault | v
  · rw [ensured_of_error hmake] at h
    split at h
    · rename_i hdir
      cases h
      exact hdir
    · cases h
  · rw [ensured_of_ok hmake] at h
    obtain ⟨-, rfl⟩ := Prod.mk.inj h
    exact isDirectory_of_makeDir hmake

theorem eq_of_ensured (h : ensured mode path t = (.error fault, u)) :
    u = t ∧ t.makeDir mode path = .error fault ∧ t.isDirectory path = false := by
  rcases hmake : t.makeDir mode path with e | v
  · rw [ensured_of_error hmake] at h
    split at h
    · cases h
    · rename_i hno
      cases h
      exact ⟨rfl, rfl, by simpa using hno⟩
  · rw [ensured_of_ok hmake] at h
    cases h

/-- Where a directory is, none is made. -/
theorem made_of_isDirectory (h : t.isDirectory path = true) : Made mode path t (.ok (), t) := by
  obtain ⟨hrefuse, there, m, hwalk, -⟩ := isDirectory_iff.mp h
  have hmake : t.makeDir mode path = .error .alreadyExists := makeDir_of_walk hrefuse hwalk
  have hlast : Made mode path t (ensured mode path t) :=
    .last (refuse_eq_ok_iff.mp hrefuse).2.1 (by rw [hmake]; simp)
  rwa [ensured_of_error hmake, h] at hlast

/-- What has been made is there. -/
theorem Made.isDirectory (h : Made mode path t (.ok (), u)) :
    path = "" ∨ u.isDirectory path = true := by
  generalize hout : (Except.ok (), u) = out at h
  cases h with
  | empty => exact .inl rfl
  | last => exact .inr (isDirectory_of_ensured hout.symm)
  | alone | stopped => cases hout
  | after => exact .inr (isDirectory_of_ensured hout.symm)

/-- A parent of what is usable is usable. -/
theorem refuse_parent (hparent : Path.parent? path = some parent) (h : refuse path = .ok ())
    (hne : parent ≠ "") : refuse parent = .ok () := by
  obtain ⟨hnul, -, hshort⟩ := refuse_eq_ok_iff.mp h
  have hbegins := Path.parent_prefix hparent
  refine refuse_eq_ok_iff.mpr ⟨fun hmem => hnul (hbegins.subset hmem), hne, ?_⟩
  obtain ⟨rest, hrest⟩ := hbegins
  rw [← hrest, List.length_append] at hshort
  omega

/-- A way to a directory that goes on from a parent leads to it through a directory. -/
theorem isDirectory_of_prefix {m : Nat} (hparent : Path.parent? path = some parent)
    (hrefuse : refuse path = .ok ()) (hway : steps parent <+: way)
    (hwalk : t.walk (start path) way = .ok there) (hthere : t.find? there = some (.directory m)) :
    parent = "" ∨ t.isDirectory parent = true := by
  by_cases hne : parent = ""
  · exact .inl hne
  obtain ⟨more, rfl⟩ := hway
  rw [← (Path.parent_way hparent).1, walk_append] at hwalk
  rcases hhere : t.walk (start parent) (steps parent) with e | here
  · rw [hhere] at hwalk
    cases hwalk
  · rw [hhere] at hwalk
    obtain ⟨k, hdir⟩ := exists_directory_of_walk hwalk hthere
    exact .inr (isDirectory_iff.mpr ⟨refuse_parent hparent hrefuse hne, here, k, hhere, hdir⟩)

/-- Where a directory can be made or is, its parent is a directory. -/
theorem isDirectory_parent (hparent : Path.parent? path = some parent)
    (h : ensured mode path t = (.ok (), u)) : parent = "" ∨ t.isDirectory parent = true := by
  have hway := (Path.parent_way hparent).2
  rcases hmake : t.makeDir mode path with fault | v
  · have hdir := isDirectory_of_ensured h
    obtain rfl : u = t := by
      rw [ensured_of_error hmake] at h
      split at h <;> exact (Prod.mk.inj h).2.symm
    obtain ⟨hrefuse, there, m, hwalk, hthere⟩ := isDirectory_iff.mp hdir
    exact isDirectory_of_prefix hparent hrefuse (hway.trans (List.dropLast_prefix _)) hwalk hthere
  · obtain ⟨here, name, hlast, -⟩ := makeDir_eq_ok hmake
    obtain ⟨hrefuse, before, m, hsteps, hwalk, hhere⟩ := locateLast_eq_ok hlast
    rw [hsteps, List.dropLast_concat] at hway
    exact isDirectory_of_prefix hparent hrefuse hway hwalk hhere

theorem made_of_empty_or_isDirectory (h : path = "" ∨ t.isDirectory path = true) :
    Made mode path t (.ok (), t) := by
  rcases h with rfl | hdir
  · exact .empty
  · exact made_of_isDirectory hdir

/-- **What has been made once stays as it is**, and what could not be made still cannot. -/
theorem Made.again (hcalm : t.mishaps = []) (h : Made mode path t (result, u)) :
    ∃ result', Made mode path u (result', u) ∧ (result' = .ok () ↔ result = .ok ()) := by
  rcases result with fault | _
  · suffices ∃ fault', Made mode path u (.error fault', u) by
      obtain ⟨fault', hmade⟩ := this
      exact ⟨_, hmade, by simp⟩
    generalize hout : (Except.error fault, u) = out at h
    induction h generalizing fault u with
    | empty => cases hout
    | @last path t hpath h =>
      obtain ⟨rfl, -, -⟩ := eq_of_ensured hout.symm
      exact ⟨fault, hout ▸ .last hpath h⟩
    | alone hpath h hparent =>
      obtain ⟨-, rfl⟩ := Prod.mk.inj hout
      exact ⟨_, .alone hpath h hparent⟩
    | @stopped path parent t v e hpath h hparent habove ih =>
      obtain ⟨-, rfl⟩ := Prod.mk.inj hout
      obtain ⟨fault', hmade⟩ := ih hcalm _ rfl
      by_cases hmake : u.makeDir mode path = .error .notFound
      · exact ⟨fault', .stopped hpath hmake hparent hmade⟩
      rcases hrun : ensured mode path u with ⟨fault'' | _, w⟩
      · obtain ⟨rfl, -, -⟩ := eq_of_ensured hrun
        exact ⟨fault'', hrun ▸ .last hpath hmake⟩
      · -- the parent would be a directory, and could have been made
        have hmade' : Made mode parent u (.ok (), u) :=
          made_of_empty_or_isDirectory (isDirectory_parent hparent hrun)
        cases Made.unique (habove.mishaps.trans hcalm) hmade hmade'
    | @after path parent t v hpath h hparent hmade _ =>
      obtain ⟨rfl, hmake, -⟩ := eq_of_ensured hout.symm
      by_cases hfault : fault = .notFound
      · have habove : Made mode parent u (.ok (), u) :=
          made_of_empty_or_isDirectory hmade.isDirectory
        exact ⟨fault, hout ▸ .after hpath (hfault ▸ hmake) hparent habove⟩
      · exact ⟨fault, hout ▸ .last hpath (by simpa [hmake] using hfault)⟩
  · exact ⟨_, made_of_empty_or_isDirectory h.isDirectory, Iff.rfl⟩

/-! ## What stands in the way -/

end NodeBootstrap.FileTree
