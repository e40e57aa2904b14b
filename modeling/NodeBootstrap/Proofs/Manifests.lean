import NodeBootstrap.Proofs.AddonCourse
import NodeBootstrap.Proofs.AddonSources

/-!
# The manifests that stay

The manifest of an add-on is written over what is there. It stays unless a later add-on has the same
name, and two add-ons of a directory have one name when the names of their files are shown as texts
that differ in nothing but marks.

* `FileTree.Keeps`: what was found is still found, but some files have been written anew;
* `PrivateFile.keeps_write`, `PrivateFile.fileName_of_write`: what is written, under which names;
* `Node.Course.keeps`, `Node.Course.stored`: what add-ons leave when they are applied in turn;
* `Addon.SameButMarks`, `Addon.Unmarked.eq_iff`: files whose add-ons have one name;
* **`Node.install_keeps_last_manifests`**: the manifests that an installation leaves.
-/

namespace NodeBootstrap

/-! ## What stays in a tree -/

namespace FileTree

variable {t u v : FileTree} {here there way names : List OsText} {name path : OsText}
  {P Q : List OsText → Prop}

/-- All that is found in the one tree is found in the other; only files under some names may have
been written anew. -/
def Keeps (P : List OsText → Prop) (t u : FileTree) : Prop :=
  ∀ names e, t.find? names = some e → u.find? names = some e ∨
    P names ∧ e.isDirectory = false ∧ (u.find? names).isSome = true

theorem Keeps.refl (P : List OsText → Prop) (t : FileTree) : Keeps P t t :=
  fun _ _ h => Or.inl h

theorem Keeps.mono (h : Keeps P t u) (hPQ : ∀ names, P names → Q names) : Keeps Q t u :=
  fun names e he => (h names e he).imp_right fun ⟨hP, hfound⟩ => ⟨hPQ names hP, hfound⟩

theorem Keeps.isSome (h : Keeps P t u) (hfound : (t.find? names).isSome = true) :
    (u.find? names).isSome = true := by
  obtain ⟨e, he⟩ := Option.isSome_iff_exists.mp hfound
  rcases h names e he with hsame | ⟨-, -, hfound⟩
  · rw [hsame]
    rfl
  · exact hfound

theorem Keeps.keepsDirectories (h : Keeps P t u) : KeepsDirectories t u := by
  intro names m hm
  rcases h names _ hm with hsame | ⟨-, hfile, -⟩
  · exact hsame
  · cases hfile

/-- A file keeps its content when it is not written anew. -/
theorem Keeps.find? {e : FileEntry} (h : Keeps P t u) (he : t.find? names = some e)
    (hP : ¬P names) : u.find? names = some e :=
  (h names e he).resolve_right fun hnew => hP hnew.1

theorem Keeps.trans (h : Keeps P t u) (h' : Keeps P u v) : Keeps P t v := by
  intro names e he
  rcases h names e he with hsame | ⟨hP, hfile, hfound⟩
  · exact h' names e hsame
  · exact Or.inr ⟨hP, hfile, h'.isSome hfound⟩

theorem Keeps.walk (h : Keeps P t u) (hwalk : t.walk here way = .ok there) :
    u.walk here way = .ok there := by
  induction way generalizing here with
  | nil => exact hwalk
  | cons name way ih =>
    obtain ⟨next, hstep, hrest⟩ := walk_cons_eq_ok_iff.mp hwalk
    exact walk_cons_eq_ok_iff.mpr ⟨next, step_of_keeps h.keepsDirectories hstep h.isSome, ih hrest⟩

/-- A path leads to where it led. -/
theorem Keeps.locate (h : Keeps P t u) (hlocate : t.locate path = .ok names) :
    u.locate path = .ok names := by
  obtain ⟨hrefuse, hwalk⟩ := locate_eq_ok_iff.mp hlocate
  exact locate_eq_ok_iff.mpr ⟨hrefuse, h.walk hwalk⟩

end FileTree

open FileTree

/-! ## What is written -/

namespace PrivateFile

variable {t u : FileTree} {dir name path : OsText} {text : String}

/-- A success puts the text where the path leads, and keeps all else. -/
theorem keeps_write (h : (write path text).exec t = (.ok (), u)) : ∃ file,
    u.locate path = .ok file ∧ u.find? file = some (.file fileMode (.text text)) ∧
      Keeps (· = file) t u := by
  obtain ⟨w, file, hgrown, hfilled⟩ := filled_write_of_ok h
  refine ⟨file, hfilled.located, hfilled.found, fun names e he => ?_⟩
  have hw : w.find? names = some e := by
    rcases hgrown names with hsame | ⟨hnone, -, -⟩
    · rw [hsame, he]
    · rw [hnone] at he
      cases he
  by_cases hfile : names = file
  · subst hfile
    refine Or.inr ⟨rfl, ?_, by rw [hfilled.found]; rfl⟩
    cases e with
    | file mode content => rfl
    | directory m => exact absurd hw (hfilled.free m)
  · exact Or.inl ((hfilled.others names hfile).trans hw)

/-- Only under a name that files have can something be written in a directory. -/
theorem fileName_of_write (hslash : Path.slash ∉ name.bytes)
    (h : (write (Path.join dir name) text).exec t = (.ok (), u)) : FileName name := by
  obtain ⟨w, -, hfill⟩ := write_eq_ok h
  obtain ⟨here, last, ⟨hlast, hend, hdot, hup, hsize, -⟩, -⟩ := fillable_of_fill hfill
  obtain ⟨hrefuse, before, m, hsteps, -⟩ := locateLast_eq_ok hlast
  obtain ⟨hnul, hempty, -⟩ := refuse_eq_ok_iff.mp hrefuse
  have hne : name ≠ "" := by
    rintro rfl
    rcases Path.join_empty dir with hjoin | hjoin
    · exact hempty hjoin
    · rw [hjoin] at hend
      cases hend
  have hname : name = last := by
    rw [Path.steps_join dir hslash hne] at hsteps
    exact List.singleton_injective (List.append_inj' hsteps rfl).2
  subst hname
  obtain ⟨front, hjoin⟩ := Path.exists_join_eq dir hslash
  refine ⟨hne, hdot, hup, hslash, fun hmem => hnul ?_, hsize⟩
  rw [hjoin, OsText.bytes_append]
  exact List.mem_append_right _ hmem

end PrivateFile

/-! ## What add-ons leave -/

namespace Node

variable {n : Node} {x : Executor} {values : List (String × Template.Value)} {a : Addon}
  {addons : List Addon} {s t u : Session}

/-- An add-on that has been applied has its manifest, and the rest is kept. -/
theorem Applied.keeps (h : n.Applied x values a s t) : ∃ file text,
    t.tree.locate (a.targetPath n.addonDir) = .ok file ∧ a.render values = .ok text ∧
      t.tree.find? file = some (.file PrivateFile.fileMode (.text text)) ∧
      Keeps (· = file) s.tree t.tree := by
  cases h with
  | intro hrender hwrite hanswer =>
    obtain ⟨file, hlocate, hfound, hkeeps⟩ := PrivateFile.keeps_write hwrite
    exact ⟨file, _, hlocate, hrender, hfound, hkeeps⟩

theorem Applied.fileName (h : n.Applied x values a s t)
    (hslash : Path.slash ∉ (a.name : OsText).bytes) :
    FileName a.name := by
  cases h with
  | intro hrender hwrite hanswer => exact PrivateFile.fileName_of_write hslash hwrite

/-- Add-ons write nothing anew but what their paths lead to. -/
theorem Course.keeps (h : n.Course x values addons s u) : Keeps
    (fun file => ∃ a ∈ addons, u.tree.locate (a.targetPath n.addonDir) = .ok file)
    s.tree u.tree := by
  induction h with
  | done s => exact Keeps.refl _ _
  | @next a addons s t u happlied _ ih =>
    obtain ⟨file, text, hlocate, -, -, hkeeps⟩ := happlied.keeps
    have hfirst : ∀ names, names = file →
        ∃ b ∈ a :: addons, u.tree.locate (b.targetPath n.addonDir) = .ok names := by
      rintro names rfl
      exact ⟨a, by simp, ih.locate hlocate⟩
    exact (hkeeps.mono hfirst).trans
      (ih.mono fun names ⟨b, hb, hlocate⟩ => ⟨b, List.mem_cons_of_mem a hb, hlocate⟩)

/-- The manifest of an add-on stays where its path leads, unless the path of a later add-on leads
there too. -/
theorem Course.stored (h : n.Course x values addons s u) {front back : List Addon}
    (haddons : addons = front ++ a :: back) : ∃ file text,
    u.tree.locate (a.targetPath n.addonDir) = .ok file ∧ a.render values = .ok text ∧
      ((∀ b ∈ back, u.tree.locate (b.targetPath n.addonDir) ≠ .ok file) →
        u.tree.find? file = some (.file PrivateFile.fileMode (.text text))) := by
  induction h generalizing front with
  | done s => simp at haddons
  | @next b addons s t u happlied hrest ih =>
    rcases front with _ | ⟨c, front⟩
    · obtain ⟨rfl, rfl⟩ := List.cons.inj haddons
      obtain ⟨file, text, hlocate, hrender, hfound, -⟩ := happlied.keeps
      refine ⟨file, text, hrest.keeps.locate hlocate, hrender, fun hlater => ?_⟩
      exact hrest.keeps.find? hfound fun ⟨b, hb, hb'⟩ => hlater b hb hb'
    · obtain ⟨rfl, rfl⟩ := List.cons.inj haddons
      exact ih rfl

theorem Course.fileName (h : n.Course x values addons s u)
    (hslash : ∀ a ∈ addons, Path.slash ∉ (a.name : OsText).bytes) :
    ∀ a ∈ addons, FileName a.name := by
  induction h with
  | done s => simp
  | next happlied _ ih =>
    rw [List.forall_mem_cons] at hslash ⊢
    exact ⟨happlied.fileName hslash.1, ih hslash.2⟩

end Node

/-! ## Files whose add-ons have one name -/

namespace Addon

variable {f g a b : String}

/-- Two names that differ in nothing but marks of templates at their ends. -/
def SameButMarks (f g : String) : Prop := ∃ stem j k, f = marked stem j ∧ g = marked stem k

theorem marked_marked (name : String) (j k : Nat) :
    marked (marked name j) k = marked name (j + k) := by
  induction k with
  | zero => rfl
  | succ k ih => rw [marked, ih, ← Nat.add_assoc, marked]

theorem Unmarked.marked (h : Unmarked f a) (count : Nat) : Unmarked (marked f count) a := by
  obtain ⟨⟨j, rfl⟩, ha⟩ := h
  exact ⟨⟨j + count, marked_marked a j count⟩, ha⟩

/-- There is one name without the marks. -/
theorem Unmarked.unique (h : Unmarked f a) (h' : Unmarked f b) : a = b := by
  obtain ⟨⟨j, rfl⟩, ha⟩ := h
  obtain ⟨⟨k, hk⟩, hb⟩ := h'
  induction j generalizing k with
  | zero =>
    cases k with
    | zero => exact hk
    | succ k => exact absurd hk (ha _)
  | succ j ih =>
    cases k with
    | zero => exact absurd hk.symm (hb _)
    | succ k => exact ih k ((String.append_left_inj _).mp hk)

/-- Two files have add-ons of one name exactly when they differ in nothing but marks. -/
theorem Unmarked.eq_iff (h : Unmarked f a) (h' : Unmarked g b) : a = b ↔ SameButMarks f g := by
  constructor
  · rintro rfl
    obtain ⟨⟨j, hj⟩, -⟩ := h
    obtain ⟨⟨k, hk⟩, -⟩ := h'
    exact ⟨a, j, k, hj, hk⟩
  · rintro ⟨stem, j, k, rfl, rfl⟩
    have hstem := unmarked_nameOf stem
    rw [h.unique (hstem.marked j), h'.unique (hstem.marked k)]

theorem Unmarked.noSlash (h : Unmarked f a) (hslash : '/' ∉ f.toList) : '/' ∉ a.toList := by
  obtain ⟨⟨count, rfl⟩, -⟩ := h
  induction count with
  | zero => exact hslash
  | succ count ih =>
    refine ih fun hmem => hslash ?_
    rw [Addon.marked, String.toList_append]
    exact List.mem_append_left _ hmem

section Sources

variable {sources : List (OsText × Content)} {addons : List Addon}

theorem noSlash_of_reads (h : List.Forall₂ Reads sources addons)
    (hsources : ∀ source ∈ sources, FileName source.1) :
    ∀ a ∈ addons, Path.slash ∉ (a.name : OsText).bytes := by
  induction h with
  | nil => simp
  | cons hreads _ ih =>
    rw [List.forall_mem_cons] at hsources ⊢
    have hname := hreads.name.noSlash (OsText.noSlash_shown hsources.1.noSlash)
    exact ⟨mt OsText.slash_mem_ofText_iff.mp hname, ih hsources.2⟩

/-- Files of which no two differ in nothing but marks have add-ons of different names. -/
theorem nodup_names_of_reads (h : List.Forall₂ Reads sources addons)
    (hsources : sources.Pairwise fun f g => ¬SameButMarks f.1.shown g.1.shown) :
    (addons.map (·.name)).Nodup := by
  induction h with
  | nil => simp
  | @cons f a sources addons hreads hrest ih =>
    obtain ⟨hfirst, hsources⟩ := List.pairwise_cons.mp hsources
    rw [List.map_cons, List.nodup_cons]
    refine ⟨fun hmem => ?_, ih hsources⟩
    obtain ⟨b, hb, hname⟩ := List.mem_map.mp hmem
    have hother : List.Forall₂ (fun g b => ¬SameButMarks f.1.shown g.1.shown ∧ Reads g b)
        sources addons :=
      (List.forall₂_and_left _ _).mpr ⟨hfirst, hrest⟩
    have hnames : List.Forall₂ (fun b g => b.name ≠ a.name ∧ True) addons sources :=
      List.Forall₂.flip (hother.imp fun g b ⟨hsame, hb⟩ =>
        ⟨fun heq => hsame ((hreads.name.eq_iff hb.name).mp heq.symm), trivial⟩)
    exact ((List.forall₂_and_left _ _).mp hnames).1 b hb hname

end Sources

end Addon

/-! ## Installations -/

namespace Node

variable {n : Node} {x : Executor} {v : Version} {p : Parameters} {addons : List Addon}
  {s u : Session} {t : FileTree} {dir : OsText}

/-- An installation that succeeds has applied all its add-ons. -/
theorem exists_course (h : (n.install x v p addons).exec s = (.ok (), u)) :
    ∃ t, n.Course x (Addon.values v p) addons t u := by
  have hinstall : n.install x v p addons = (do
      (do
        n.compensated x p (n.enter x (initRendering v p) (n.kubeadm.init n.configPath))
        n.startAgent x : Act Session Unit)
      n.applyAddons x (Addon.values v p) addons : Act Session Unit) := by
    rw [bind_assoc]
    rfl
  rw [hinstall, Act.exec_bind] at h
  split at h
  · rename_i t _
    have hcases := exec_applyAddons n x (Addon.values v p) addons t
    rw [h] at hcases
    exact ⟨t, hcases⟩
  · cases h

/-- A directory holds the manifest of an add-on under the name of the add-on. -/
def HoldsManifest (values : List (String × Template.Value)) (t : FileTree) (here : List OsText)
    (a : Addon) : Prop :=
  ∃ text, a.render values = .ok text ∧
    t.find? (here ++ [(a.name : OsText)]) = some (.file 0o600 (.text text))

/-- All add-ons have their files in one directory. -/
theorem Course.exists_directory {values : List (String × Template.Value)}
    (h : n.Course x values addons s u) (hnames : ∀ a ∈ addons, FileName a.name) :
    ∃ here, ∀ a ∈ addons, u.tree.walk (start n.addonDir) (steps n.addonDir) = .ok here ∧
      u.tree.locate (a.targetPath n.addonDir) = .ok (here ++ [(a.name : OsText)]) := by
  have hlocate : ∀ a ∈ addons, ∃ here,
      u.tree.walk (start n.addonDir) (steps n.addonDir) = .ok here ∧
        u.tree.locate (a.targetPath n.addonDir) = .ok (here ++ [(a.name : OsText)]) := by
    intro a ha
    obtain ⟨front, back, haddons⟩ := List.append_of_mem ha
    obtain ⟨file, -, hlocate, -⟩ := h.stored haddons
    obtain ⟨-, here, hwalk, hstep⟩ :=
      (locate_join (hnames a ha).noSlash (hnames a ha).ne_empty).mp hlocate
    obtain ⟨rfl, -⟩ := (step_fileName (hnames a ha)).mp hstep
    exact ⟨here, hwalk, hlocate⟩
  rcases hwalk : u.tree.walk (start n.addonDir) (steps n.addonDir) with e | here
  · refine ⟨[], fun a ha => ?_⟩
    obtain ⟨here, hwalk', -⟩ := hlocate a ha
    rw [hwalk] at hwalk'
    cases hwalk'
  · refine ⟨here, fun a ha => ?_⟩
    obtain ⟨here', hwalk', hlocate⟩ := hlocate a ha
    rw [hwalk] at hwalk'
    obtain rfl := Except.ok.inj hwalk'
    exact ⟨rfl, hlocate⟩

/-- **An installation leaves the manifest of every add-on whose name no later one has**, each in a
file of its own in the directory for add-ons. Add-ons of a directory have one name exactly when
what is shown for the names of their files differs in nothing but marks; as long as no two files do,
no manifest is lost. -/
theorem install_keeps_last_manifests (ht : t.Proper) (hload : Addon.loadDir t dir = .ok addons)
    (hinstall : (n.install x v p addons).exec s = (.ok (), u)) :
    ∃ (sources : List (OsText × Content)) (here : List OsText),
      sources.Pairwise (fun f g => f.1.bytes < g.1.bytes) ∧
      (∀ name content, (name, content) ∈ sources ↔ Addon.IsSource t dir name content) ∧
      List.Forall₂ Addon.Reads sources addons ∧
      (∀ f a g b, (f, a) ∈ sources.zip addons → (g, b) ∈ sources.zip addons →
        (a.name = b.name ↔ Addon.SameButMarks f.1.shown g.1.shown)) ∧
      (∀ a ∈ addons, FileName a.name ∧
        u.tree.walk (start n.addonDir) (steps n.addonDir) = .ok here ∧
        u.tree.locate (a.targetPath n.addonDir) = .ok (here ++ [(a.name : OsText)])) ∧
      (∀ front a back, addons = front ++ a :: back → (∀ b ∈ back, b.name ≠ a.name) →
        HoldsManifest (Addon.values v p) u.tree here a) ∧
      (sources.Pairwise (fun f g => ¬Addon.SameButMarks f.1.shown g.1.shown) →
        (addons.map (·.name)).Nodup ∧
          ∀ a ∈ addons, HoldsManifest (Addon.values v p) u.tree here a) := by
  obtain ⟨l, hl⟩ : ∃ l, t.listing dir = .ok l := by
    rcases hl : t.listing dir with e | l
    · rw [Addon.loadDir, hl] at hload
      cases hload
    · exact ⟨l, rfl⟩
  obtain ⟨sources, hsorted, hmem, hread⟩ := Addon.exists_sources ht hl
  have hreads := Addon.readAll_sources ht fun source hsource => (hmem source.1 source.2).mp hsource
  rw [← hread, hload] at hreads
  obtain ⟨t', hcourse⟩ := exists_course hinstall
  have hnames := hcourse.fileName (Addon.noSlash_of_reads hreads fun source hsource =>
    (((hmem source.1 source.2).mp hsource).exists_entry ht).1)
  obtain ⟨here, hlocate⟩ := hcourse.exists_directory hnames
  have hholds : ∀ front a back, addons = front ++ a :: back → (∀ b ∈ back, b.name ≠ a.name) →
      HoldsManifest (Addon.values v p) u.tree here a := by
    intro front a back haddons hback
    obtain ⟨file, text, hfile, hrender, hfound⟩ := hcourse.stored haddons
    have ha : a ∈ addons := haddons ▸ List.mem_append_right _ List.mem_cons_self
    obtain rfl := Except.ok.inj ((hlocate a ha).2.symm.trans hfile)
    refine ⟨text, hrender, hfound fun b hb hsame => hback b hb ?_⟩
    have hb' : b ∈ addons := haddons ▸ List.mem_append_right _ (List.mem_cons_of_mem a hb)
    have heq := Except.ok.inj ((hlocate b hb').2.symm.trans hsame)
    exact OsText.ofText_injective (List.singleton_injective (List.append_cancel_left heq))
  refine ⟨sources, here, hsorted, hmem, hreads, fun f a g b hf hg => ?_,
    fun a ha => ⟨hnames a ha, hlocate a ha⟩, hholds, fun hsources => ?_⟩
  · exact (List.forall₂_zip hreads hf).name.eq_iff (List.forall₂_zip hreads hg).name
  · have hnodup := Addon.nodup_names_of_reads hreads hsources
    refine ⟨hnodup, fun a ha => ?_⟩
    obtain ⟨front, back, rfl⟩ := List.append_of_mem ha
    refine hholds front a back rfl fun b hb heq => ?_
    rw [List.map_append, List.map_cons, List.nodup_append] at hnodup
    exact (List.nodup_cons.mp hnodup.2.1).1 (heq ▸ List.mem_map_of_mem hb)

/-- Of two files that differ in a mark the later one has its manifest kept, and so has the later one
of two whose names are shown as one text. -/
theorem install_keeps_last_manifests_of_marks :
    let t : FileTree :=
      { entries := [(["ad"], .directory 0o755), (["ad", "a.yaml"], .file 0o644 (.text "one")),
        (["ad", "a.yaml.j2"], .file 0o644 (.text "two")),
        (["ad", ⟨0xFE :: Utf8.encode ".yaml"⟩], .file 0o644 (.text "three")),
        (["ad", ⟨0xFF :: Utf8.encode ".yaml"⟩], .file 0o644 (.text "four"))] }
    let n : Node := { configPath := "kubeadm.conf", addonDir := "addons" }
    let x : Executor := fun _ _ => .ok {}
    let p : Parameters := { advertiseAddress := "10.0.0.5" }
    let addons : List Addon := [⟨"a.yaml", "one"⟩, ⟨"a.yaml", "two"⟩,
      ⟨"\uFFFD.yaml", "three"⟩, ⟨"\uFFFD.yaml", "four"⟩]
    t.Proper ∧ Addon.loadDir t "ad" = .ok addons ∧
      ∃ u here, (n.install x ⟨1, 16, 0⟩ p addons).exec { tree := t } = (.ok (), u) ∧
        HoldsManifest (Addon.values ⟨1, 16, 0⟩ p) u.tree here ⟨"a.yaml", "two"⟩ ∧
        HoldsManifest (Addon.values ⟨1, 16, 0⟩ p) u.tree here ⟨"\uFFFD.yaml", "four"⟩ := by
  intro t n x p addons
  have ht : t.Proper := ⟨by decide, by decide, by simp [t]⟩
  have hload : Addon.loadDir t "ad" = .ok addons := by
    have hnames : Addon.loadDir t "ad" =
        Addon.readAll t "ad" ["a.yaml", "a.yaml.j2", ⟨0xFE :: Utf8.encode ".yaml"⟩,
          ⟨0xFF :: Utf8.encode ".yaml"⟩] :=
      Addon.loadDir_of_names rfl rfl (by decide)
    rw [hnames]
    decide +kernel
  obtain ⟨u, hu⟩ : ∃ u, (n.install x ⟨1, 16, 0⟩ p addons).exec { tree := t } = (.ok (), u) :=
    ⟨_, Act.exec_eq_of_fst (by decide +kernel)⟩
  obtain ⟨sources, here, -, -, -, -, -, hholds, -⟩ := install_keeps_last_manifests ht hload hu
  refine ⟨ht, hload, u, here, hu, ?_, ?_⟩
  · exact hholds (addons.take 1) ⟨"a.yaml", "two"⟩ (addons.drop 2) rfl (by decide)
  · exact hholds (addons.take 3) ⟨"\uFFFD.yaml", "four"⟩ [] rfl (by decide)

/-- The manifests of two files that differ in a mark go into one file: all that the installation
leaves in the directory for add-ons is the second. -/
theorem install_loses_manifest :
    let t : FileTree :=
      { entries := [(["ad"], .directory 0o755), (["ad", "a.yaml"], .file 0o644 (.text "one")),
        (["ad", "a.yaml.j2"], .file 0o644 (.text "two"))] }
    let n : Node := { configPath := "kubeadm.conf", addonDir := "addons" }
    let x : Executor := fun _ _ => .ok {}
    let p : Parameters := { advertiseAddress := "10.0.0.5" }
    let first : Addon := ⟨"a.yaml", "one"⟩
    let second : Addon := ⟨"a.yaml", "two"⟩
    let left : List (List OsText × FileEntry) :=
      [(["addons"], .directory 0o700), (["addons", "a.yaml"], .file 0o600 (.text "two"))]
    Addon.loadDir t "ad" = .ok [first, second] ∧
      first.render (Addon.values ⟨1, 16, 0⟩ p) = .ok "one" ∧
      ∃ u, (n.install x ⟨1, 16, 0⟩ p [first, second]).exec { tree := t } = (.ok (), u) ∧
        u.tree.entries.filter (fun e => e.1.head? = some n.addonDir) = left := by
  intro t n x p first second left
  have hnames : Addon.loadDir t "ad" = Addon.readAll t "ad" ["a.yaml", "a.yaml.j2"] :=
    Addon.loadDir_of_names rfl rfl (by decide)
  have hload : Addon.loadDir t "ad" = .ok [first, second] := by
    rw [hnames]
    decide +kernel
  exact ⟨hload, by decide +kernel, _, Act.exec_eq_of_fst (by decide +kernel), by decide +kernel⟩

end Node

end NodeBootstrap
