import NodeBootstrap.Addon.Basic
import NodeBootstrap.Proofs.ByteOrder
import NodeBootstrap.Proofs.ShownNames
import Mathlib.Data.List.Forall2

/-!
# The add-ons of a directory

The add-ons of a directory are its regular files with the extension of an add-on, in the order of
their names. They are read up to the first that is no text.

* `Addon.IsManifestName`, `Addon.hasExtension_iff`: the names of files that are add-ons;
* `Addon.marked`, `Addon.Unmarked`, `Addon.unmarked_nameOf`: names with the mark of a template
  behind them, and without;
* `Addon.IsSource`, `Addon.mem_selected_iff`: the files that are selected;
* `Addon.selected_pairwise`, `Addon.selected_perm`: they come in one order, however they are listed;
* `Addon.Reads`, `Addon.readAll_sources`: they are all read, or up to one that is no text;
* **`Addon.loadDir_complete`**: what reading the add-ons of a directory comes to;
* `Addon.loadDir_renames_and_misses`: a name that is no text is shown with a sign in it, and a file
  whose path is too long is missed.
-/

namespace NodeBootstrap.Addon

open FileTree

variable {t u : FileTree} {dir name : OsText} {c : Content}

/-! ## Names -/

/-- The name of a file that is an add-on: something, a dot and an extension. -/
def IsManifestName (name : OsText) : Prop :=
  ∃ stem ext : OsText, name = stem ++ "." ++ ext ∧ stem ≠ "" ∧
    (ext = "yaml" ∨ ext = "yml" ∨ ext = "j2")

theorem mem_extensions_iff {ext : OsText} :
    extensions.contains ext = true ↔ ext = "yaml" ∨ ext = "yml" ∨ ext = "j2" := by
  simp [extensions]

theorem hasExtension_iff : hasExtension name = true ↔ IsManifestName name := by
  have hdot : ∀ ext ∈ extensions, Path.dot ∉ ext.bytes := by decide
  rw [hasExtension, Path.extension?]
  constructor
  · intro h
    rcases hcut : Chars.cutLast Path.dot name.bytes with _ | ⟨stem, ext⟩
    · simp [hcut] at h
    by_cases hstem : stem = []
    · simp [hcut, hstem] at h
    refine ⟨⟨stem⟩, ⟨ext⟩, ?_, fun heq => hstem (OsText.bytes_eq_nil_iff.mpr heq), ?_⟩
    · ext1
      rw [(Chars.cutLast_eq_some_iff.mp hcut).1]
      simp
    · exact mem_extensions_iff.mp (by simpa [hcut, hstem] using h)
  · rintro ⟨stem, ext, rfl, hstem, hext⟩
    have hbytes : (stem ++ "." ++ ext).bytes = stem.bytes ++ Path.dot :: ext.bytes := by simp
    have hcontains := mem_extensions_iff.mpr hext
    rw [hbytes, Chars.cutLast_append _ (hdot ext (by simpa using hcontains))]
    simpa [mt OsText.bytes_eq_nil_iff.mp hstem] using hcontains

/-- A name with the mark of a template behind it, so many times. -/
def marked (name : String) : (count : Nat) → String
  | 0 => name
  | count + 1 => marked name count ++ ".j2"

/-- A name is that of a file without the marks at its end. -/
def Unmarked (fileName name : String) : Prop :=
  (∃ count, fileName = marked name count) ∧ ∀ stem, name ≠ stem ++ ".j2"

theorem dropRepeated_marked (fuel : Nat) (cs : List Char) (hfuel : cs.length ≤ fuel) :
    Unmarked (String.ofList cs.reverse)
      (String.ofList (dropRepeated templateSuffix.reverse fuel cs).reverse) := by
  induction fuel generalizing cs with
  | zero =>
    obtain rfl := List.length_eq_zero_iff.mp (Nat.le_zero.mp hfuel)
    refine ⟨⟨0, rfl⟩, fun stem h => ?_⟩
    simpa [dropRepeated] using congrArg String.toList h
  | succ fuel ih =>
    rw [dropRepeated]
    rcases hafter : Chars.after? templateSuffix.reverse cs with _ | rest
    · refine ⟨⟨0, rfl⟩, fun stem h => ?_⟩
      have hcs : cs = templateSuffix.reverse ++ stem.toList.reverse := by
        rw [← List.reverse_reverse cs, ← String.toList_ofList (l := cs.reverse), h]
        simp [templateSuffix]
      rw [Chars.after?_eq_some_iff.mpr hcs] at hafter
      cases hafter
    · obtain rfl := Chars.after?_eq_some_iff.mp hafter
      obtain ⟨⟨count, hcount⟩, hmark⟩ := ih rest (by
        rw [List.length_append] at hfuel
        have : templateSuffix.reverse.length = 3 := rfl
        omega)
      refine ⟨⟨count + 1, ?_⟩, hmark⟩
      rw [marked, ← hcount, ← String.toList_inj]
      simp [templateSuffix]

/-- A file's name loses all the marks at its end. -/
theorem unmarked_nameOf (fileName : String) : Unmarked fileName (nameOf fileName) := by
  have h := dropRepeated_marked fileName.length fileName.toList.reverse
    (by rw [List.length_reverse, String.length_toList])
  rwa [List.reverse_reverse, String.ofList_toList] at h

/-! ## Files that are selected -/

/-- A regular file of a directory with the extension of an add-on, and its content. Its path must
not be longer than a host takes. -/
def IsSource (t : FileTree) (dir name : OsText) (content : Content) : Prop :=
  IsManifestName name ∧ (Path.join dir name).bytes.length ≤ pathLimit ∧
    ∃ l mode, t.listing dir = .ok l ∧ (name, .file mode content) ∈ l

theorem IsManifestName.ne_slash (h : IsManifestName name) : name ≠ "/" := by
  rintro rfl
  obtain ⟨stem, ext, heq, hstem, -⟩ := h
  have hlength := congrArg (fun p => p.bytes.length) heq
  have hne := List.length_pos_iff.mpr (mt OsText.bytes_eq_nil_iff.mp hstem)
  simp at hlength
  omega

/-- A source has a name that files have, and its path leads to its content. -/
theorem IsSource.exists_entry (ht : t.Proper) (h : IsSource t dir name c) :
    FileName name ∧ ∃ mode, t.entry? (Path.join dir name) = some (.file mode c) := by
  obtain ⟨hname, hshort, l, mode, hl, hmem⟩ := h
  have hfile := fileName_of_mem_listing ht hl hmem hname.ne_slash
  exact ⟨hfile, mode, entry?_join ht hl hmem hfile hshort⟩

theorem isFile_iff {path : OsText} :
    t.isFile path = true ↔ ∃ mode content, t.entry? path = some (.file mode content) := by
  rw [isFile]
  rcases t.entry? path with _ | ⟨mode, content⟩ | mode
  · simp
  · simp [FileEntry.isDirectory]
  · simp [FileEntry.isDirectory]

theorem mem_selected_iff (ht : t.Proper) {l : List (OsText × FileEntry)}
    (hl : t.listing dir = .ok l) :
    name ∈ selected t dir (l.map (·.1)) ↔ ∃ content, IsSource t dir name content := by
  rw [selected, List.mem_mergeSort, List.mem_filter, Bool.and_eq_true, isFile_iff, hasExtension_iff]
  constructor
  · rintro ⟨hmem, ⟨mode, content, hfile⟩, hname⟩
    obtain ⟨names, hlocate, -⟩ := entry?_eq_some_iff.mp hfile
    obtain ⟨-, -, hshort⟩ := refuse_eq_ok_iff.mp (locate_eq_ok_iff.mp hlocate).1
    obtain ⟨⟨name, e⟩, hlisted, rfl⟩ := List.mem_map.mp hmem
    have hfileName := fileName_of_mem_listing ht hl hlisted hname.ne_slash
    have hentry := entry?_join ht hl hlisted hfileName hshort
    rw [hfile] at hentry
    exact ⟨content, hname, hshort, l, mode, hl, Option.some.inj hentry ▸ hlisted⟩
  · rintro ⟨content, hsource⟩
    obtain ⟨-, mode, hfile⟩ := hsource.exists_entry ht
    obtain ⟨hname, -, l', mode', hl', hmem⟩ := hsource
    obtain rfl := Except.ok.inj (hl.symm.trans hl')
    exact ⟨List.mem_map.mpr ⟨_, hmem, rfl⟩, ⟨mode, content, hfile⟩, hname⟩

theorem nodup_bytes {names : List OsText} (h : names.Nodup) : (names.map OsText.bytes).Nodup :=
  List.Nodup.map (fun _ _ => OsText.ext) h

/-- Selected names come with ever greater ones. -/
theorem selected_pairwise (t : FileTree) (dir : OsText) {names : List OsText}
    (h : names.Nodup) : (selected t dir names).Pairwise fun a b => a.bytes < b.bytes :=
  pairwise_sorted (nodup_bytes (h.filter _))

/-- It does not matter in which order names are listed. -/
theorem selected_perm (t : FileTree) (dir : OsText) {names names' : List OsText} (h : names.Nodup)
    (hperm : names'.Perm names) : selected t dir names' = selected t dir names :=
  sorted_eq_of_perm (nodup_bytes (h.filter _)) (hperm.filter _)

/-! ## Files that are read -/

/-- An add-on has been read from a file: its template has the bytes of the file, and its name is
what is shown for the name of the file without marks. -/
structure Reads (source : OsText × Content) (a : Addon) : Prop where
  template : Utf8.encode a.template = source.2.octets
  name : Unmarked source.1.shown a.name

theorem Reads.isText {source : OsText × Content} {a : Addon} (h : Reads source a) :
    source.2.IsText := ⟨a.template, h.template⟩

/-- A file that is selected is read if it is a text. -/
theorem ofFile_source (ht : t.Proper) (h : IsSource t dir name c) :
    (∃ a, ofFile t (Path.join dir name) = .ok a ∧ Reads (name, c) a) ∨
      ofFile t (Path.join dir name) = .error (.filesystem (Path.join dir name) .notText) ∧
        ¬c.IsText := by
  obtain ⟨hname, mode, hfile⟩ := h.exists_entry ht
  obtain ⟨names, hlocate, hfound⟩ := entry?_eq_some_iff.mp hfile
  cases c with
  | text s =>
    have hread : t.readText (Path.join dir name) = .ok s := by
      rw [readText, hlocate]
      dsimp only [bind, Except.bind]
      rw [hfound]
      rfl
    refine Or.inl ⟨⟨nameOf name.shown, s⟩, ?_, rfl, unmarked_nameOf name.shown⟩
    rw [ofFile, hread, Path.fileName?_join dir hname]
  | bytes bs =>
    have hread : t.readText (Path.join dir name) = .error .notText := by
      rw [readText, hlocate]
      dsimp only [bind, Except.bind]
      rw [hfound]
      rfl
    refine Or.inr ⟨?_, ht.not_isText hfound⟩
    rw [ofFile, hread]

/-- **Files that are selected are all read, or up to one that is no text.** -/
theorem readAll_sources (ht : t.Proper) {sources : List (OsText × Content)}
    (h : ∀ source ∈ sources, IsSource t dir source.1 source.2) :
    match readAll t dir (sources.map (·.1)) with
    | .ok addons => List.Forall₂ Reads sources addons
    | .error e => ∃ front bad back, sources = front ++ bad :: back ∧
        (∀ source ∈ front, source.2.IsText) ∧ ¬bad.2.IsText ∧
        e = .filesystem (Path.join dir bad.1) .notText := by
  induction sources with
  | nil => exact .nil
  | cons source sources ih =>
    rw [List.forall_mem_cons] at h
    have hrest := ih h.2
    rw [List.map_cons, readAll]
    rcases ofFile_source ht h.1 with ⟨a, hread, hreads⟩ | ⟨hread, hbad⟩
    · rw [hread]
      dsimp only [bind, Except.bind]
      rcases hall : readAll t dir (sources.map (·.1)) with e | addons
      · rw [hall] at hrest ⊢
        obtain ⟨front, bad, back, rfl, hfront, hbad, rfl⟩ := hrest
        exact ⟨source :: front, bad, back, rfl, List.forall_mem_cons.mpr ⟨hreads.isText, hfront⟩,
          hbad, rfl⟩
      · rw [hall] at hrest ⊢
        exact List.Forall₂.cons hreads hrest
    · rw [hread]
      exact ⟨[], source, sources, rfl, by simp, hbad, rfl⟩

theorem readAll_congr (h : u.find? = t.find?) (dir : OsText) (names : List OsText) :
    readAll u dir names = readAll t dir names := by
  have hread : ∀ path, u.readText path = t.readText path := fun path => by
    rw [readText, readText, locate_congr h, h]
  induction names with
  | nil => rfl
  | cons name names ih => rw [readAll, readAll, ofFile, ofFile, hread, ih]

theorem selected_congr (h : u.find? = t.find?) (dir : OsText) (names : List OsText) :
    selected u dir names = selected t dir names := by
  have hfile : u.isFile = t.isFile := funext fun path => by rw [isFile, isFile, entry?_congr h]
  rw [selected, selected, hfile]

/-- Names that lead to contents, with the contents. -/
theorem exists_contents {names : List OsText}
    (h : ∀ name ∈ names, ∃ content, IsSource t dir name content) :
    ∃ sources : List (OsText × Content), sources.map (·.1) = names ∧
      ∀ source ∈ sources, IsSource t dir source.1 source.2 := by
  induction names with
  | nil => exact ⟨[], rfl, by simp⟩
  | cons name names ih =>
    rw [List.forall_mem_cons] at h
    obtain ⟨content, hcontent⟩ := h.1
    obtain ⟨sources, rfl, hsources⟩ := ih h.2
    exact ⟨(name, content) :: sources, rfl, List.forall_mem_cons.mpr ⟨hcontent, hsources⟩⟩

theorem IsSource.unique {c' : Content} (ht : t.Proper) (h : IsSource t dir name c)
    (h' : IsSource t dir name c') : c = c' := by
  obtain ⟨-, mode, hfile⟩ := h.exists_entry ht
  obtain ⟨-, mode', hfile'⟩ := h'.exists_entry ht
  rw [hfile] at hfile'
  cases hfile'
  rfl

/-- What is read of a directory are its sources in the order of their names. -/
theorem exists_sources (ht : t.Proper) {l : List (OsText × FileEntry)}
    (hl : t.listing dir = .ok l) : ∃ sources : List (OsText × Content),
      sources.Pairwise (fun a b => a.1.bytes < b.1.bytes) ∧
      (∀ name content, (name, content) ∈ sources ↔ IsSource t dir name content) ∧
      loadDir t dir = readAll t dir (sources.map (·.1)) := by
  obtain ⟨sources, hnames, hsources⟩ :=
    exists_contents fun name hname => (mem_selected_iff ht hl).mp hname
  refine ⟨sources, ?_, fun name content => ⟨hsources (name, content), fun hsource => ?_⟩, ?_⟩
  · have hsorted := selected_pairwise t dir (nodup_listing ht hl)
    rw [← hnames, List.pairwise_map] at hsorted
    exact hsorted
  · have hname : name ∈ sources.map (·.1) :=
      hnames ▸ (mem_selected_iff ht hl).mpr ⟨content, hsource⟩
    obtain ⟨⟨_, content'⟩, hmem, rfl⟩ := List.mem_map.mp hname
    exact (hsource.unique ht (hsources _ hmem)) ▸ hmem
  · rw [loadDir, hl, hnames]

/-- What is read of a directory whose add-ons are listed in order. -/
theorem loadDir_of_names {l : List (OsText × FileEntry)} {names : List OsText}
    (hl : t.listing dir = .ok l)
    (hfiles : ((l.map (·.1)).filter fun name =>
      t.isFile (Path.join dir name) && hasExtension name) = names)
    (hsorted : names.Pairwise fun a b => a.bytes ≤ b.bytes) :
    loadDir t dir = readAll t dir names := by
  have hle : names.Pairwise fun a b => (a.bytes ≤ b.bytes : Bool) :=
    hsorted.imp fun h => by simpa using h
  rw [loadDir, hl]
  dsimp only
  rw [selected, hfiles, List.mergeSort_of_pairwise hle]

/-- Another order of the entries makes no difference. -/
theorem loadDir_perm (ht : t.Proper) (hperm : u.entries.Perm t.entries) (dir : OsText) :
    loadDir u dir = loadDir t dir := by
  have hfind := find?_perm ht.distinct hperm
  have hlisting := listing_perm hfind hperm dir
  rw [loadDir, loadDir]
  rcases hl : t.listing dir with e | l
  · rw [hl] at hlisting
    rw [hlisting]
  · rw [hl] at hlisting
    obtain ⟨l', hl', hperm'⟩ := hlisting
    rw [hl']
    dsimp only
    rw [readAll_congr hfind, selected_congr hfind,
      selected_perm t dir (nodup_listing ht hl) (hperm'.map _)]

/-- **The add-ons of a directory are all its files that are add-ons, in the order of the bytes of
their names**, whatever the order of the directory. They are read exactly when all of them are
texts, each with what it holds and under its name without marks; otherwise the first that is no text
is told. -/
theorem loadDir_complete (ht : t.Proper) (dir : OsText) :
    (∀ u : FileTree, u.entries.Perm t.entries → loadDir u dir = loadDir t dir) ∧
    match t.listing dir with
    | .error e => loadDir t dir = .error (.filesystem dir e)
    | .ok _ => ∃ sources : List (OsText × Content),
        sources.Pairwise (fun a b => a.1.bytes < b.1.bytes) ∧
        (∀ name content, (name, content) ∈ sources ↔ IsSource t dir name content) ∧
        ((∃ addons, loadDir t dir = .ok addons) ↔ ∀ source ∈ sources, source.2.IsText) ∧
        match loadDir t dir with
        | .ok addons => List.Forall₂ Reads sources addons
        | .error e => ∃ front bad back, sources = front ++ bad :: back ∧
            (∀ source ∈ front, source.2.IsText) ∧ ¬bad.2.IsText ∧
            e = .filesystem (Path.join dir bad.1) .notText := by
  refine ⟨fun u hperm => loadDir_perm ht hperm dir, ?_⟩
  rcases hl : t.listing dir with e | l
  · dsimp only
    rw [loadDir, hl]
  obtain ⟨sources, hsorted, hmem, hload⟩ := exists_sources ht hl
  have hread := readAll_sources ht fun source hsource => (hmem source.1 source.2).mp hsource
  rw [← hload] at hread
  refine ⟨sources, hsorted, hmem, ?_, hread⟩
  rcases hresult : loadDir t dir with e | addons
  · rw [hresult] at hread
    obtain ⟨front, bad, back, rfl, -, hbad, -⟩ := hread
    exact ⟨fun ⟨addons, h⟩ => (nomatch h), fun h => absurd (h bad (by simp)) hbad⟩
  · rw [hresult] at hread
    have htexts : (∀ source ∈ sources, source.2.IsText) ∧ List.Forall₂ Reads sources addons :=
      (List.forall₂_and_left _ _).mp (hread.imp fun source a h => ⟨h.isText, h⟩)
    exact ⟨fun _ => htexts.1, fun _ => ⟨addons, rfl⟩⟩

/-- A name with two marks comes first, and neither a hidden name nor a directory counts. -/
theorem loadDir_complete_of_marks :
    let t : FileTree :=
      { entries := [(["ad"], .directory 0o755), (["ad", ".yaml"], .file 0o644 (.text "hidden")),
        (["ad", "a.yaml.j2.j2"], .file 0o644 (.text "one")),
        (["ad", "b.yml"], .file 0o644 (.text "two")), (["ad", "c.yaml"], .directory 0o755)] }
    let addons : List Addon := [⟨"a.yaml", "one"⟩, ⟨"b.yml", "two"⟩]
    t.Proper ∧ (∀ u : FileTree, u.entries.Perm t.entries → loadDir u "ad" = .ok addons) ∧
      ∃ sources : List (OsText × Content),
        (∀ name content, (name, content) ∈ sources ↔ IsSource t "ad" name content) ∧
        List.Forall₂ Reads sources addons := by
  intro t addons
  have ht : t.Proper := ⟨by decide, by decide, by simp [t]⟩
  obtain ⟨l, hl⟩ : ∃ l, t.listing "ad" = .ok l := ⟨_, rfl⟩
  have hload : loadDir t "ad" = .ok addons := by
    have hnames : loadDir t "ad" = readAll t "ad" ["a.yaml.j2.j2", "b.yml"] :=
      loadDir_of_names rfl rfl (by decide)
    rw [hnames]
    decide +kernel
  obtain ⟨hperm, hread⟩ := loadDir_complete ht "ad"
  rw [hl, hload] at hread
  obtain ⟨sources, -, hmem, -, hreads⟩ := hread
  exact ⟨ht, fun u hu => (hperm u hu).trans hload, sources, hmem, hreads⟩

/-! ## A directory that is far away -/

section Far

variable {count : Nat}

/-- A path that stays where it is so many times, and then goes to a name. -/
def roundabout (name : OsText) : (count : Nat) → OsText
  | 0 => name
  | count + 1 => "." ++ "/" ++ roundabout name count

theorem length_roundabout (name : OsText) (count : Nat) :
    (roundabout name count).bytes.length = 2 * count + name.bytes.length := by
  induction count with
  | zero => simp [roundabout]
  | succ count ih =>
    simp only [roundabout, OsText.bytes_append, List.length_append, ih]
    simp
    omega

theorem exists_roundabout_eq (name : OsText) (count : Nat) :
    ∃ front : OsText, roundabout name count = front ++ name := by
  induction count with
  | zero => exact ⟨"", rfl⟩
  | succ count ih =>
    obtain ⟨front, hfront⟩ := ih
    exact ⟨"." ++ "/" ++ front, OsText.ext (by simp [roundabout, hfront])⟩

theorem steps_roundabout (h : FileName name) (count : Nat) :
    steps (roundabout name count) = List.replicate count ("." : OsText) ++ [name] := by
  induction count with
  | zero => simp [roundabout, steps, Path.parts_of_noSlash h.noSlash, h.ne_empty]
  | succ count ih =>
    have hdot : Path.parts "." = [("." : OsText)] := rfl
    rw [steps, roundabout, Path.parts_append_slash, hdot, List.filter_append, ← steps, ih]
    rfl

theorem refuse_roundabout (h : FileName name)
    (hshort : 2 * count + name.bytes.length ≤ pathLimit) :
    refuse (roundabout name count) = .ok () := by
  refine refuse_eq_ok_iff.mpr ⟨?_, fun hempty => ?_, by rwa [length_roundabout]⟩
  · induction count with
    | zero => exact h.noNul
    | succ count ih =>
      have hrest := ih (by omega)
      simpa [roundabout, Path.dot, Path.slash] using hrest
  · have hsteps := steps_roundabout h count
    rw [hempty] at hsteps
    exact List.append_ne_nil_of_right_ne_nil _ (by simp) hsteps.symm

/-- Such a path leads to the name, unless it is longer than a host takes. -/
theorem locate_roundabout (h : FileName name) {e : FileEntry} (hfound : t.find? [name] = some e)
    (hshort : 2 * count + name.bytes.length ≤ pathLimit) :
    t.locate (roundabout name count) = .ok [name] := by
  refine locate_eq_ok_iff.mpr ⟨refuse_roundabout h hshort, ?_⟩
  have hstart : start (roundabout name count) = [] := by
    cases count with
    | zero => exact if_neg (by simp [roundabout, Path.isAbsolute_of_noSlash h.noSlash])
    | succ count => rfl
  have hend : Path.endsInSlash (roundabout name count) = false := by
    obtain ⟨front, hfront⟩ := exists_roundabout_eq name count
    rw [hfront, Path.endsInSlash_append front h.noSlash h.ne_empty]
  rw [hstart, hend, steps_roundabout h, if_neg (by decide), List.append_nil, walk_append,
    walk_dots (fun d hd => List.eq_of_mem_replicate hd) rfl]
  exact walk_cons_eq_ok_iff.mpr
    ⟨[name], step_name rfl h.ne_dot h.ne_up h.short hfound, rfl⟩

end Far

/-- A file whose name is no text is read under another name, and one whose path is longer than a
host takes is passed over. -/
theorem loadDir_renames_and_misses :
    let strange : OsText := ⟨0xFF :: Utf8.encode ".yaml"⟩
    let t (name : OsText) : FileTree :=
      { entries := [(["ad"], .directory 0o755), (["ad", name], .file 0o644 (.text "one"))] }
    let far : OsText := roundabout "ad" 2046
    ((t strange).Proper ∧
      (t strange).listing "ad" = .ok [(strange, .file 0o644 (.text "one"))] ∧
      loadDir (t strange) "ad" = .ok [⟨"\uFFFD.yaml", "one"⟩] ∧
      OsText.ofText "\uFFFD.yaml" ≠ strange) ∧
    (t "a.yaml").Proper ∧
      (t "a.yaml").listing far = .ok [("a.yaml", .file 0o644 (.text "one"))] ∧
      loadDir (t "a.yaml") far = .ok [] := by
  intro strange t far
  have hstrange : loadDir (t strange) "ad" = readAll (t strange) "ad" [strange] :=
    loadDir_of_names rfl rfl (by simp)
  have hfar : (t "a.yaml").locate far = .ok ["ad"] :=
    locate_roundabout (by decide) (e := .directory 0o755) rfl (by decide)
  have hlisting : (t "a.yaml").listing far = .ok [("a.yaml", .file 0o644 (.text "one"))] := by
    rw [listing, hfar]
    rfl
  have hproper : (t "a.yaml").Proper := ⟨by decide, by decide, by simp [t]⟩
  refine ⟨⟨⟨by decide, by decide, by simp [t]⟩, rfl, ?_, by decide⟩, hproper, hlisting, ?_⟩
  · rw [hstrange]
    decide +kernel
  · have hfile : (t "a.yaml").isFile (Path.join far "a.yaml") = false := by
      rw [Bool.eq_false_iff, ne_eq, isFile_iff]
      rintro ⟨mode, content, hentry⟩
      obtain ⟨names, hlocate, -⟩ := entry?_eq_some_iff.mp hentry
      obtain ⟨-, -, hshort⟩ := refuse_eq_ok_iff.mp (locate_eq_ok_iff.mp hlocate).1
      have hslash : Path.slash ∉ ("a.yaml" : OsText).bytes := by decide
      have hlong := Path.length_le_join far hslash
      rw [length_roundabout] at hlong
      exact absurd (hlong.trans hshort) (by decide)
    have hload : loadDir (t "a.yaml") far = readAll (t "a.yaml") far [] :=
      loadDir_of_names hlisting (by simp [hfile]) List.Pairwise.nil
    exact hload

end NodeBootstrap.Addon
