import NodeBootstrap.Proofs.CommaLists
import NodeBootstrap.Proofs.Lookups
import NodeBootstrap.Proofs.Precedence

/-!
# Lists of admission plugins

An operator gives the admission plugins of the API server as texts with commas. They are read into
lists, and the lists are written into arguments with commas again.

* `Text.Split`, `Text.Split.eq_pieces`: the parts of a text between its commas;
* `Text.ListEntry`, `Text.listEntry_of_mem_listed`: the entries that lists have;
* `Text.listed_glue_entries`, `Text.listed_glue_listed`: entries are read back from the text that
  they make up;
* `PluginList`, `PluginList.field?_arguments`: the two lists, and the arguments they are written to;
* **`PluginList.listed_exact`**: what is read from a text, and that the argument says the same.
-/

namespace NodeBootstrap

open Text Yaml Component

/-! ## Reading lists -/

namespace Text

/-- Parts without commas that make up a text with commas between them. -/
structure Split (s : String) (parts : List String) : Prop where
  ne_nil : parts ≠ []
  noComma : ∀ part ∈ parts, ',' ∉ part.toList
  glued : glue "," parts = s

/-- An entry of a list: a text without blanks around it that is not empty and has no comma. -/
structure ListEntry (entry : String) : Prop where
  ne_empty : entry ≠ ""
  trimmed : trim entry = entry
  noComma : ',' ∉ entry.toList

variable {s entry : String} {parts entries : List String}

theorem split_pieces (s : String) : Split s (pieces ',' s) where
  ne_nil := by simp [pieces, Chars.pieces_ne_nil]
  noComma _ hpart := not_mem_of_mem_pieces hpart
  glued := by
    rw [glue, pieces, List.map_map]
    simpa [Function.comp_def] using congrArg String.ofList (Chars.glue_pieces ',' s.toList)

/-- A text is split in one way only. -/
theorem Split.eq_pieces (h : Split s parts) : parts = pieces ',' s := by
  rw [← h.glued]
  exact (pieces_glue h.ne_nil h.noComma).symm

theorem noComma_trim (h : ',' ∉ s.toList) : ',' ∉ (trim s).toList := by
  intro hmem
  obtain ⟨before, after, -, -, hs⟩ := (around_trim s).toList_eq
  exact h (hs ▸ List.mem_append_left _ (List.mem_append_right _ hmem))

theorem listEntry_of_mem_listed (h : entry ∈ listed s) : ListEntry entry := by
  rw [listed_eq, List.mem_map] at h
  obtain ⟨part, hpart, rfl⟩ := h
  obtain ⟨hmem, hfilled⟩ := List.mem_filter.mp hpart
  exact {
    ne_empty := blank_eq_false_iff.mp (by simpa using hfilled)
    trimmed := trim_trim part
    noComma := noComma_trim (not_mem_of_mem_pieces hmem) }

theorem ListEntry.listable (h : ListEntry entry) : Listable entry :=
  ⟨blank_eq_false_iff.mpr (h.trimmed.symm ▸ h.ne_empty), h.noComma⟩

/-- Entries are read back from the text that they make up. -/
theorem listed_glue_entries (h : ∀ entry ∈ entries, ListEntry entry) :
    listed (glue "," entries) = entries := by
  rw [listed_glue fun entry hentry => (h entry hentry).listable]
  exact (List.map_congr_left fun entry hentry => (h entry hentry).trimmed).trans (List.map_id' _)

theorem listed_glue_listed (s : String) : listed (glue "," (listed s)) = listed s :=
  listed_glue_entries fun _ => listEntry_of_mem_listed

end Text

/-! ## Writing arguments -/

/-- An argument for a list stands among others if the list has entries. -/
theorem Arguments.field?_listArgument {name : String} {front more : List (String × String)}
    (hfront : name ∉ front.map (·.1)) (hmore : name ∉ more.map (·.1)) (values : List String) :
    (table (ofList (front ++ listArgument name values ++ more))).field? name =
      if values = [] then none else some (.text (glue "," values)) := by
  rw [field?_ofList_append hmore]
  rcases values with _ | ⟨first, rest⟩
  · rw [listArgument, List.append_nil, ← List.nil_append front, field?_ofList_append hfront,
      if_pos rfl]
    rfl
  · rw [listArgument, ofList, List.foldl_append]
    simp [field?_insert]

/-- A list of admission plugins. -/
inductive PluginList where
  | enabled
  | disabled
deriving DecidableEq, Repr

namespace PluginList

/-- The property that has a list. -/
def property : PluginList → Property
  | enabled => .enableAdmissionPlugins
  | disabled => .disableAdmissionPlugins

/-- The plugins of a list. -/
def plugins (p : Parameters) : PluginList → List String
  | enabled => p.apiServer.enableAdmissionPlugins
  | disabled => p.apiServer.disableAdmissionPlugins

/-- The argument of the API server for a list. -/
def argumentName : PluginList → String
  | enabled => "enable-admission-plugins"
  | disabled => "disable-admission-plugins"

/-- The arguments of the API server before those for the lists. -/
def argumentsBefore (p : Parameters) : List (String × String) :=
  (Component.ofProvider p.provider).arguments ++
    (argument "oidc-issuer-url" (nonBlank p.apiServer.oidcIssuerUrl) ++
      argument "oidc-client-id" (nonBlank p.apiServer.oidcClientId) ++
      argument "kubelet-certificate-authority"
        (nonBlank p.apiServer.kubeletCertificateAuthority))

/-- The arguments of the API server after those for the lists. -/
def argumentsAfter (s : Selection) (p : Parameters) : List (String × String) :=
  (Component.ofAuditLog (nonBlank p.apiServer.auditLogDir)).arguments ++
    (Component.ofEncryption s.encryptionFlag
      (nonBlank p.apiServer.encryptionProviderConfig)).arguments

theorem named_argumentsBefore (p : Parameters) :
    Named ["cloud-provider", "cloud-config", "oidc-issuer-url", "oidc-client-id",
      "kubelet-certificate-authority"] (argumentsBefore p) :=
  (named_ofProvider _).append
    (((named_argument _ _).append (named_argument _ _)).append (named_argument _ _))

theorem named_argumentsAfter (s : Selection) (p : Parameters) :
    Named ["audit-log-path", "audit-policy-file", "audit-log-maxage", "audit-log-maxbackup",
      "audit-log-maxsize", s.encryptionFlag] (argumentsAfter s p) :=
  (named_ofAuditLog _).append (named_ofEncryption _ _)

theorem arguments_apiServer (s : Selection) (p : Parameters) :
    (Component.apiServer s p).arguments = Arguments.ofList (argumentsBefore p ++
      listArgument (argumentName enabled) (plugins p enabled) ++
      listArgument (argumentName disabled) (plugins p disabled) ++ argumentsAfter s p) := by
  simp [Component.apiServer, Component.together, argumentsBefore, argumentsAfter, argumentName,
    plugins]

variable {t : FileTree} {sources : Sources} {s : Selection} {p : Parameters} {value : String}

/-- The API server has an argument for each list that has plugins. -/
theorem field?_arguments (s : Selection) (p : Parameters) (q : PluginList) :
    (table (Component.apiServer s p).arguments).field? q.argumentName =
      if q.plugins p = [] then none else some (.text (glue "," (q.plugins p))) := by
  have hafter : q.argumentName ∉ (argumentsAfter s p).map (·.1) := by
    refine (named_argumentsAfter s p).not_mem ?_
    unfold Selection.encryptionFlag
    split <;> cases q <;> decide
  have hbefore : q.argumentName ∉ (argumentsBefore p).map (·.1) :=
    (named_argumentsBefore p).not_mem (by cases q <;> decide)
  rw [arguments_apiServer]
  cases q with
  | enabled =>
    rw [List.append_assoc]
    refine Arguments.field?_listArgument hbefore ?_ _
    rw [List.map_append, List.mem_append, not_or]
    exact ⟨(named_listArgument _ _).not_mem (by decide), hafter⟩
  | disabled =>
    refine Arguments.field?_listArgument ?_ hafter _
    rw [List.map_append, List.mem_append, not_or]
    exact ⟨hbefore, (named_listArgument _ _).not_mem (by decide)⟩

/-- The last override for a list is read into it. -/
theorem plugins_of_load (h : sources.load t = .ok p) {q : PluginList}
    (hlast : Overrides.lastValue? q.property.key sources.overrides = some value) :
    q.plugins p = listed value := by
  obtain ⟨file, -, hprecedence⟩ := Sources.precedence_of_load h
  cases q with
  | enabled => exact (Except.ok.inj (hprecedence.override rfl hlast)).symm
  | disabled => exact (Except.ok.inj (hprecedence.override rfl hlast)).symm

/-- A document has the plugins of a list as one text, from which they are read back. -/
theorem at?_argument {first cluster : Yaml} {agent : List Yaml}
    (h : Rendering.initTrees s p = .ok (first :: cluster :: agent)) (q : PluginList) :
    cluster.at? (s.generation.apiServerArguments ++ [q.argumentName]) =
      if q.plugins p = [] then none else some (.text (glue "," (q.plugins p))) := by
  obtain ⟨_, d, -, hd, htrees⟩ := Rendering.initTrees_eq_ok_iff.mp h
  cases htrees
  rw [ClusterDocument.at?_argument, (ClusterDocument.components_of hd).1, field?_arguments]

/-- **A list is read from a text as the parts between its commas, trimmed and without the blank
ones**, and lists of such entries are read back from the text that they make up. So the argument for
a list of plugins that an override gives says exactly what the override does, and there is none for
an empty list. -/
theorem listed_exact (text : String) :
    (∃ parts, Split text parts) ∧
    (∀ parts, Split text parts → listed text = (parts.filter fun part => !blank part).map trim) ∧
    (∀ entry ∈ listed text, ListEntry entry) ∧
    listed (glue "," (listed text)) = listed text ∧
    (∀ entries, (∀ entry ∈ entries, ListEntry entry) → listed (glue "," entries) = entries) ∧
    ∀ (t : FileTree) (sources : Sources) (p : Parameters) (s : Selection) (q : PluginList)
      (value : String) (first cluster : Yaml) (agent : List Yaml), sources.load t = .ok p →
      Overrides.lastValue? q.property.key sources.overrides = some value →
      Rendering.initTrees s p = .ok (first :: cluster :: agent) →
      q.plugins p = listed value ∧
        (listed value = [] ∧
          cluster.at? (s.generation.apiServerArguments ++ [q.argumentName]) = none ∨
        ∃ argument,
          cluster.at? (s.generation.apiServerArguments ++ [q.argumentName]) =
            some (.text argument) ∧ listed argument = listed value) := by
  refine ⟨⟨_, split_pieces text⟩, fun parts hparts => ?_, fun _ => listEntry_of_mem_listed,
    listed_glue_listed text, fun _ => listed_glue_entries, ?_⟩
  · rw [hparts.eq_pieces, listed_eq]
  · intro t sources p s q value first cluster agent hload hlast htrees
    have hplugins := plugins_of_load hload hlast
    refine ⟨hplugins, ?_⟩
    rw [at?_argument htrees, hplugins]
    by_cases hempty : listed value = []
    · exact Or.inl ⟨hempty, if_pos hempty⟩
    · exact Or.inr ⟨_, if_neg hempty, listed_glue_listed value⟩

/-- Plugins given with blanks and too many commas: the argument names the two that there are. -/
theorem listed_exact_of_blanks :
    let sources : Sources := { advertiseAddress := some "10.0.0.5", overrides :=
      ["apiserver.enable-admission-plugins= NodeRestriction ,\t,, AlwaysPullImages,"] }
    let plugins : List String := ["NodeRestriction", "AlwaysPullImages"]
    Split "NodeRestriction ,\t,, AlwaysPullImages,"
        ["NodeRestriction ", "\t", "", " AlwaysPullImages", ""] ∧
      listed "NodeRestriction ,\t,, AlwaysPullImages," = plugins ∧
      (∀ entry ∈ plugins, ListEntry entry) ∧ listed (glue "," plugins) = plugins ∧
      ∃ p first cluster agent argument, sources.load {} = .ok p ∧
        Rendering.initTrees ⟨⟨1, 16, 0⟩, .v1beta2, false⟩ p = .ok (first :: cluster :: agent) ∧
        cluster.at? ["apiServer", "extraArgs", "enable-admission-plugins"] =
          some (.text argument) ∧ listed argument = plugins := by
  intro sources plugins
  obtain ⟨-, hread, hentries, hglued, -, hargument⟩ :=
    listed_exact "NodeRestriction ,\t,, AlwaysPullImages,"
  have hsplit : Split "NodeRestriction ,\t,, AlwaysPullImages,"
      ["NodeRestriction ", "\t", "", " AlwaysPullImages", ""] :=
    ⟨by simp, by decide, by decide⟩
  have hlisted : listed "NodeRestriction ,\t,, AlwaysPullImages," = plugins :=
    (hread _ hsplit).trans (by decide)
  rw [hlisted] at hentries hglued
  let p : Parameters :=
    { advertiseAddress := "10.0.0.5", apiServer := { enableAdmissionPlugins := plugins } }
  have hload : sources.load {} = .ok p := by decide +kernel
  obtain ⟨trees, htrees⟩ : ∃ trees,
      Rendering.initTrees ⟨⟨1, 16, 0⟩, .v1beta2, false⟩ p = .ok trees :=
    Results.exists_eq_ok_iff.mpr (by decide +kernel)
  obtain ⟨first, cluster, -, -, rfl⟩ := Rendering.initTrees_eq_ok_iff.mp htrees
  have hlast : Overrides.lastValue? "apiserver.enable-admission-plugins" sources.overrides =
      some "NodeRestriction ,\t,, AlwaysPullImages," := by decide +kernel
  obtain ⟨-, ⟨hempty, -⟩ | ⟨argument, hfound, hsame⟩⟩ :=
    hargument {} sources p _ enabled _ _ _ _ hload hlast htrees
  · exact absurd (hlisted.symm.trans hempty) (by decide)
  · exact ⟨hsplit, hlisted, hentries, hglued, p, _, _, _, argument, hload, htrees, hfound,
      hsame.trans hlisted⟩

end PluginList

end NodeBootstrap
