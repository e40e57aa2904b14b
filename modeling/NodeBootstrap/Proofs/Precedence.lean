import NodeBootstrap.Parameters.Sources
import NodeBootstrap.Proofs.DataFields
import NodeBootstrap.Proofs.OverrideTexts
import NodeBootstrap.Proofs.Blanks

/-!
# Which source of a parameter wins

A parameter comes from the flag that it has of its own, from the last override for its key, from
the file, or is the default: the first of these that says anything of it.

* `Sources.flagText?`, `Sources.IsFileData`: what the flags and the file say;
* `Sources.Usable`: overrides and flags that can be read;
* `Sources.Precedence`: what each parameter is;
* `Sources.exists_load_eq_ok_iff`, `Sources.precedence_of_load`, `Sources.load_reorder`: when there
  are parameters, which, and that overrides of different keys may come in any order;
* **`Sources.load_precedence`**: the parameters from all sources;
* **`Sources.load_overridden`**: an override that has no effect need not be a value.
-/

namespace NodeBootstrap

open Text

namespace Sources

/-! ## Sources -/

/-- The text of the flag that a property has of its own. -/
def flagText? (s : Sources) : Property → Option String
  | .advertiseAddress => s.advertiseAddress
  | .controlPlaneEndpoint => s.controlPlaneEndpoint
  | .nodeName => s.nodeName
  | .criSocket => s.criSocket
  | .podSubnet => s.podSubnet
  | .serviceSubnet => s.serviceSubnet
  | .cloudProvider => s.cloudProvider
  | .nodePool => s.nodePool
  | .taints => s.taints
  | _ => none

/-- The data of the file, or none without a file. -/
inductive IsFileData (t : FileTree) (s : Sources) : Option Data → Prop
  | absent (h : s.file = none) : IsFileData t s none
  | given {path text : String} {d : Data} (h : s.file = some path) (hthere : t.isThere path = true)
      (htext : t.readText path = .ok text) (hdata : Toml.parse text = .ok d) :
      IsFileData t s (some d)

/-- Overrides and flags that can be read: every override is one, the last text for each key is a
value of a property, and taints are taints. -/
structure Usable (s : Sources) : Prop where
  texts : ∀ text ∈ s.overrides, Overrides.IsOverride text
  values : ∀ key value, Overrides.lastValue? key s.overrides = some value →
    ∃ q : Property, q.key = key ∧ q.kind.Accepts value
  taints : ∀ text, s.taints = some text → PropertyKind.taints.Accepts text

/-- What each parameter is: what its flag says, else the last override for its key, else the file,
else the default. -/
structure Precedence (s : Sources) (file : Option Data) (p : Parameters) : Prop where
  flag {q : Property} {text : String} (h : s.flagText? q = some text) :
    q.kind.decode q.key text = .ok (q.get p)
  override {q : Property} {value : String} (hflag : s.flagText? q = none)
    (h : Overrides.lastValue? q.key s.overrides = some value) :
    q.kind.decode q.key value = .ok (q.get p)
  file {q : Property} (hflag : s.flagText? q = none)
    (hoverride : Overrides.lastValue? q.key s.overrides = none) :
    q.IsRead (q.get p) (file.bind q.given?)

variable {t : FileTree} {s : Sources} {p p' : Parameters}

/-! ## The file -/

theorem base_eq_ok_iff : s.base t = .ok p ↔ (s.file = none ∧ p = {}) ∨
    ∃ path, s.file = some path ∧ t.isThere path = true ∧ Parameters.ofFile t path = .ok p := by
  unfold base
  rcases s.file with _ | path
  · refine ⟨fun h => Or.inl ⟨rfl, (Except.ok.inj h).symm⟩, ?_⟩
    rintro (⟨-, rfl⟩ | ⟨_, h, -⟩)
    · rfl
    · cases h
  · by_cases hthere : t.isThere path = true
    · simp [hthere, Results.mapError_eq_ok_iff]
    · simp [hthere]

/-- The file has to be there, and to hold parameters. -/
theorem exists_base_eq_ok_iff : (∃ p, s.base t = .ok p) ↔
    ∀ path, s.file = some path → t.isThere path = true ∧ ∃ p, Parameters.ofFile t path = .ok p := by
  simp only [base_eq_ok_iff]
  rcases s.file with _ | path
  · simp
  · simp

theorem exists_of_ofFile {path : String} (h : Parameters.ofFile t path = .ok p) :
    ∃ text d, t.readText path = .ok text ∧ Toml.parse text = .ok d ∧
      Parameters.ofData true d = .ok p := by
  unfold Parameters.ofFile at h
  split at h
  next text htext =>
    obtain ⟨d, hd, hp⟩ := Results.bind_eq_ok_iff.mp (Results.mapError_eq_ok_iff.mp h)
    exact ⟨text, d, htext, hd, hp⟩
  next => cases h

/-- The file says what its properties are; the others have their defaults. -/
theorem isRead_of_base (h : s.base t = .ok p) :
    ∃ file, s.IsFileData t file ∧ ∀ q : Property, q.IsRead (q.get p) (file.bind q.given?) := by
  rcases base_eq_ok_iff.mp h with ⟨hfile, rfl⟩ | ⟨path, hfile, hthere, hp⟩
  · exact ⟨none, .absent hfile, fun _ => rfl⟩
  · obtain ⟨text, d, htext, hd, hp⟩ := exists_of_ofFile hp
    exact ⟨some d, .given hfile hthere htext hd, Parameters.isRead_of_ofData hp⟩

/-! ## Overrides -/

theorem override_eq_ok_iff : s.override p = .ok p' ↔
    ∃ m, Overrides.ofTexts s.overrides = .ok m ∧ m.apply p = (p', none) := by
  refine Results.bind_eq_ok_iff.trans (exists_congr fun m => ?_)
  rw [Results.mapError_eq_ok_iff]
  refine and_congr_right fun _ => ?_
  rcases m.apply p with ⟨after, _ | e⟩
  · simp [pure, Except.pure]
  · simp [throw, throwThe, MonadExceptOf.throw]

/-- Overrides have an effect on any parameters, or on none. -/
theorem exists_override_eq_ok_iff (s : Sources) (p : Parameters) :
    (∃ p', s.override p = .ok p') ↔ (∀ text ∈ s.overrides, Overrides.IsOverride text) ∧
      ∀ key value, Overrides.lastValue? key s.overrides = some value →
        ∃ q : Property, q.key = key ∧ q.kind.Accepts value := by
  have haccepted (key value : String) (h : Overrides.lastValue? key s.overrides = some value) :
      Overrides.Accepted (key, value) ↔ ∃ q : Property, q.key = key ∧ q.kind.Accepts value := by
    rw [Overrides.Accepted, Overrides.trim_of_lastValue? h]
  simp only [override_eq_ok_iff, ← Overrides.exists_ofTexts_eq_ok_iff]
  constructor
  · rintro ⟨p', m, hm, happly⟩
    obtain ⟨hdistinct, hmem⟩ := Overrides.mem_of_ofTexts hm
    have hall := (Overrides.apply_snd_eq_none_iff hdistinct).mp (congrArg Prod.snd happly)
    exact ⟨⟨m, hm⟩, fun key value h =>
      (haccepted key value h).mp (hall _ ((hmem key value).mpr h))⟩
  · rintro ⟨⟨m, hm⟩, hvalues⟩
    obtain ⟨hdistinct, hmem⟩ := Overrides.mem_of_ofTexts hm
    refine ⟨(m.apply p).1, m, hm, Prod.ext rfl ?_⟩
    refine (Overrides.apply_snd_eq_none_iff hdistinct).mpr fun entry hentry => ?_
    have hlast := (hmem entry.1 entry.2).mp hentry
    exact (haccepted _ _ hlast).mpr (hvalues _ _ hlast)

/-- An override sets its property, and the others stay as they are. -/
theorem get_of_override (h : s.override p = .ok p') (q : Property) :
    (∀ value, Overrides.lastValue? q.key s.overrides = some value →
      q.kind.decode q.key value = .ok (q.get p')) ∧
    (Overrides.lastValue? q.key s.overrides = none → q.get p' = q.get p) := by
  obtain ⟨m, hm, happly⟩ := override_eq_ok_iff.mp h
  obtain ⟨hdistinct, hmem⟩ := Overrides.mem_of_ofTexts hm
  have heffect := Overrides.effect_of_apply_snd_eq_none hdistinct (congrArg Prod.snd happly)
  rw [happly] at heffect
  constructor
  · intro value hlast
    obtain ⟨q', hq', hx⟩ := heffect.set ((hmem q.key value).mpr hlast)
    obtain rfl := Property.key_injective hq'
    rwa [Overrides.trim_of_lastValue? hlast] at hx
  · intro hnone
    refine heffect.kept fun value hin => ?_
    rw [hmem, hnone] at hin
    cases hin

/-! ## Flags -/

theorem taint_eq_ok_iff : s.taint p = .ok p' ↔ (s.taints = none ∧ p' = p) ∨
    ∃ text ts, s.taints = some text ∧ Taint.parseList text = .ok ts ∧
      p' = { p with taints := ts } := by
  unfold taint
  rcases s.taints with _ | text
  · simp [eq_comm]
  · simp only [Results.map_eq_ok_iff, Results.mapError_eq_ok_iff]
    constructor
    · rintro ⟨ts, hts, rfl⟩
      exact Or.inr ⟨text, ts, rfl, hts, rfl⟩
    · rintro (⟨h, -⟩ | ⟨_, ts, ⟨⟩, hts, rfl⟩)
      · cases h
      · exact ⟨ts, hts, rfl⟩

theorem exists_taint_eq_ok_iff (s : Sources) (p : Parameters) : (∃ p', s.taint p = .ok p') ↔
    ∀ text, s.taints = some text → PropertyKind.taints.Accepts text := by
  simp only [taint_eq_ok_iff, ← PropertyKind.exists_decode_eq_ok_iff ""]
  rcases s.taints with _ | text
  · simp
  · constructor
    · rintro ⟨p', ⟨h, -⟩ | ⟨_, ts, ⟨⟩, hts, -⟩⟩ _ ⟨⟩
      · cases h
      · exact ⟨ts, hts⟩
    · intro h
      obtain ⟨ts, hts⟩ := h text rfl
      exact ⟨_, Or.inr ⟨text, ts, rfl, hts, rfl⟩⟩

/-- A flag stands before what it is the flag of. -/
theorem or_flag (flag field : Option String) :
    (∀ text, flag = some text → (.ok (some text) : Except Failure _) = .ok (flag.or field)) ∧
      (flag = none → flag.or field = field) := by
  rcases flag with _ | text
  · simp
  · simp

/-- The flags other than the one for taints set their properties, and the others stay as they
are. -/
theorem get_flag (s : Sources) (p : Parameters) {q : Property} (hq : q ≠ .taints) :
    (∀ text, s.flagText? q = some text → q.kind.decode q.key text = .ok (q.get (s.flag p))) ∧
    (s.flagText? q = none → q.get (s.flag p) = q.get p) := by
  cases q with
  | taints => exact absurd rfl hq
  | advertiseAddress =>
    refine ⟨fun text h => ?_, fun h => ?_⟩
    · exact congrArg (fun o => Except.ok (Option.getD o p.advertiseAddress)) h.symm
    · exact congrArg (fun o => Option.getD o p.advertiseAddress) h
  | controlPlaneEndpoint | nodeName | criSocket | podSubnet | serviceSubnet | cloudProvider
  | nodePool => exact or_flag _ _
  | _ => exact ⟨fun _ h => (nomatch h), fun _ => rfl⟩

/-- A flag sets its property, and the others stay as they are. -/
theorem get_of_flags (h : s.taint (s.flag p) = .ok p') (q : Property) :
    (∀ text, s.flagText? q = some text → q.kind.decode q.key text = .ok (q.get p')) ∧
    (s.flagText? q = none → q.get p' = q.get p) := by
  by_cases hq : q = .taints
  · subst hq
    rcases taint_eq_ok_iff.mp h with ⟨hnone, rfl⟩ | ⟨text, ts, hsome, hts, rfl⟩
    · exact ⟨fun text h => (nomatch hnone.symm.trans h), fun _ => rfl⟩
    · refine ⟨fun text' h => ?_, fun h => (nomatch hsome.symm.trans h)⟩
      cases hsome.symm.trans h
      exact hts
  · have hkept : q.get p' = q.get (s.flag p) := by
      rcases taint_eq_ok_iff.mp h with ⟨-, rfl⟩ | ⟨text, ts, -, -, rfl⟩
      · rfl
      · exact Property.get_set_of_ne (p := .taints) hq ts (s.flag p)
    rw [hkept]
    exact get_flag s p hq

/-! ## All sources -/

theorem load_eq_ok_iff : s.load t = .ok p ↔ ∃ p₁ p₂, s.base t = .ok p₁ ∧
    s.override p₁ = .ok p₂ ∧ s.taint (s.flag p₂) = .ok p := by
  refine Results.bind_eq_ok_iff.trans ⟨?_, ?_⟩
  · rintro ⟨p₁, hbase, h⟩
    obtain ⟨p₂, hoverride, h⟩ := Results.bind_eq_ok_iff.mp h
    exact ⟨p₁, p₂, hbase, hoverride, h⟩
  · rintro ⟨p₁, p₂, hbase, hoverride, h⟩
    exact ⟨p₁, hbase, Results.bind_eq_ok_iff.mpr ⟨p₂, hoverride, h⟩⟩

/-- There are parameters if and only if there are some in the file, where one is given, and the
overrides and flags can be read. -/
theorem exists_load_eq_ok_iff : (∃ p, s.load t = .ok p) ↔
    (∀ path, s.file = some path →
      t.isThere path = true ∧ ∃ p, Parameters.ofFile t path = .ok p) ∧ s.Usable := by
  rw [← exists_base_eq_ok_iff]
  constructor
  · rintro ⟨p, h⟩
    obtain ⟨p₁, p₂, hbase, hoverride, htaint⟩ := load_eq_ok_iff.mp h
    obtain ⟨htexts, hvalues⟩ := (exists_override_eq_ok_iff s p₁).mp ⟨p₂, hoverride⟩
    exact ⟨⟨p₁, hbase⟩, htexts, hvalues, (exists_taint_eq_ok_iff s _).mp ⟨p, htaint⟩⟩
  · rintro ⟨⟨p₁, hbase⟩, htexts, hvalues, htaints⟩
    obtain ⟨p₂, hoverride⟩ := (exists_override_eq_ok_iff s p₁).mpr ⟨htexts, hvalues⟩
    obtain ⟨p, htaint⟩ := (exists_taint_eq_ok_iff s (s.flag p₂)).mpr htaints
    exact ⟨p, load_eq_ok_iff.mpr ⟨p₁, p₂, hbase, hoverride, htaint⟩⟩

/-- Overrides can be read when each of them is a value of a property. -/
theorem usable_of_accepted
    (h : ∀ text ∈ s.overrides, ∃ pair : String × String, Overrides.parts? text = some pair ∧
      ∃ q : Property, q.key = pair.1 ∧ q.kind.Accepts pair.2)
    (htaints : ∀ text, s.taints = some text → PropertyKind.taints.Accepts text) : s.Usable where
  texts text htext := by
    obtain ⟨pair, hparts, q, hq, -⟩ := h text htext
    refine ⟨pair.1, by rw [Overrides.key?, hparts]; rfl, hq ▸ ?_⟩
    cases q <;> decide
  values key value hlast := by
    obtain ⟨text, htext, hparts⟩ := Overrides.exists_of_lastValue? hlast
    obtain ⟨pair, hpair, haccepted⟩ := h text htext
    cases hparts.symm.trans hpair
    exact haccepted
  taints := htaints

theorem precedence_of_load (h : s.load t = .ok p) :
    ∃ file, s.IsFileData t file ∧ s.Precedence file p := by
  obtain ⟨p₁, p₂, hbase, hoverride, htaint⟩ := load_eq_ok_iff.mp h
  obtain ⟨file, hfile, hread⟩ := isRead_of_base hbase
  refine ⟨file, hfile, ?_⟩
  exact {
    flag := fun {q} _ htext => (get_of_flags htaint q).1 _ htext
    override := fun {q} _ hflag hlast => by
      rw [(get_of_flags htaint q).2 hflag]
      exact (get_of_override hoverride q).1 _ hlast
    file := fun {q} hflag hlast => by
      rw [(get_of_flags htaint q).2 hflag, (get_of_override hoverride q).2 hlast]
      exact hread q }

/-- Overrides with different keys may come in any order. -/
theorem load_reorder {before texts texts' after : List String}
    (h : s.overrides = before ++ texts ++ after) (hperm : texts.Perm texts')
    (hseparate : Overrides.Separate texts) :
    { s with overrides := before ++ texts' ++ after }.load t = s.load t := by
  have halike := Overrides.ofTexts_reorder before after hperm hseparate
  rw [← h] at halike
  have hoverride (p : Parameters) :
      { s with overrides := before ++ texts' ++ after }.override p = s.override p := by
    unfold override
    dsimp only
    generalize Overrides.ofTexts s.overrides = r at halike ⊢
    generalize Overrides.ofTexts (before ++ texts' ++ after) = r' at halike ⊢
    cases halike with
    | fault f => rfl
    | map hm hperm =>
      have hread (m : Overrides) : Except.mapError LoadFault.badOverride (.ok m) = .ok m := rfl
      simp only [hread, bind, Except.bind, Overrides.apply_perm hm hperm]
  unfold load
  simp only [hoverride]
  rfl

/-- **There are parameters if and only if the file, where one is given, is there and holds some,
each override has an equals sign and a key before it, the last override for each key is a value of a
property, and the taints are taints. Each parameter is then what its flag says, or else the last
override for its key, the file, or the default. Overrides with different keys may come in any
order.** -/
theorem load_precedence (t : FileTree) (s : Sources) :
    ((∃ p, s.load t = .ok p) ↔
      (∀ path, s.file = some path →
        t.isThere path = true ∧ ∃ p, Parameters.ofFile t path = .ok p) ∧ s.Usable) ∧
    (∀ p, s.load t = .ok p → ∃ file, s.IsFileData t file ∧ s.Precedence file p) ∧
    ∀ before texts texts' after : List String, s.overrides = before ++ texts ++ after →
      texts.Perm texts' → Overrides.Separate texts →
        { s with overrides := before ++ texts' ++ after }.load t = s.load t :=
  ⟨exists_load_eq_ok_iff, fun _ => precedence_of_load,
    fun _ _ _ _ h hperm hseparate => load_reorder h hperm hseparate⟩

/-- A flag stands before an override, an override before the file, and the file before the
default. -/
theorem load_precedence_of_layers :
    let text := "advertise_address = \"10.0.0.1\"\nnode_name = \"a\"\ncluster_name = \"prod\"\n"
    let t : FileTree := { entries := [(["node.toml"], .file 0o644 (.text text))] }
    let s : Sources :=
      { file := some "node.toml"
        overrides := ["node.name=c", "api.advertise-address=10.0.0.5", " node.name = b "]
        advertiseAddress := some "10.0.0.9" }
    ∃ p, s.load t = .ok p ∧ p.advertiseAddress = "10.0.0.9" ∧ p.nodeName = some "b" ∧
      p.clusterName = some "prod" ∧ p.criSocket = none := by
  intro text t s
  obtain ⟨hiff, hprecedence, -⟩ := load_precedence t s
  have hfile : t.isThere "node.toml" = true ∧ ∃ p, Parameters.ofFile t "node.toml" = .ok p :=
    ⟨by decide +kernel, Results.exists_eq_ok_iff.mpr (by decide +kernel)⟩
  have husable : s.Usable := by
    refine usable_of_accepted ?_ fun _ h => (nomatch h)
    simp only [s, List.forall_mem_cons, List.not_mem_nil, false_imp_iff, implies_true, and_true]
    exact ⟨⟨("node.name", "c"), by decide, .nodeName, rfl, trivial⟩,
      ⟨("api.advertise-address", "10.0.0.5"), by decide, .advertiseAddress, rfl, trivial⟩,
      ⟨("node.name", "b"), by decide, .nodeName, rfl, trivial⟩⟩
  obtain ⟨p, hp⟩ := hiff.mpr ⟨fun path hpath => Option.some.inj hpath ▸ hfile, husable⟩
  obtain ⟨file, hdata, hparameters⟩ := hprecedence p hp
  obtain ⟨d, hparse, rfl⟩ : ∃ d, Toml.parse text = .ok d ∧ file = some d := by
    cases hdata with
    | absent h => cases h
    | given h _ htext hparse =>
      cases h
      cases htext.symm.trans (rfl : t.readText "node.toml" = .ok text)
      exact ⟨_, hparse, rfl⟩
  refine ⟨p, hp, ?_, ?_, ?_, ?_⟩
  · exact (Except.ok.inj (hparameters.flag (q := .advertiseAddress) rfl)).symm
  · have hlast : Overrides.lastValue? "node.name" s.overrides = some "b" := by decide +kernel
    exact (Except.ok.inj (hparameters.override (q := .nodeName) rfl hlast)).symm
  · have hgiven : ((Toml.parse text).toOption.bind Property.clusterName.given?).bind
        (fun d => d.asOptionalText.toOption) = some (some "prod") := by decide +kernel
    rw [hparse] at hgiven
    obtain ⟨d', hd', hread⟩ := Option.bind_eq_some_iff.mp hgiven
    have hcluster := hparameters.file (q := .clusterName) rfl (by decide +kernel)
    change Property.clusterName.given? d = some d' at hd'
    rw [Option.bind_some, hd'] at hcluster
    change d'.asOptionalText = .ok p.clusterName at hcluster
    rw [hcluster] at hread
    exact Option.some.inj hread
  · have hgiven : ((Toml.parse text).toOption.bind Property.criSocket.given?).isNone = true := by
      decide +kernel
    rw [hparse] at hgiven
    have hnone : Property.criSocket.given? d = none := Option.isNone_iff_eq_none.mp hgiven
    have hsocket := hparameters.file (q := .criSocket) rfl (by decide +kernel)
    rw [Option.bind_some, hnone] at hsocket
    exact hsocket

/-- An override that another one for its key follows need not be a value. -/
theorem load_overridden :
    (∃ p, load {} { overrides := ["join.control-plane=yes", "join.control-plane=true"] } =
      .ok p) ∧
    Overrides.entry "join.control-plane=yes" = .ok ("join.control-plane", "yes") ∧
    ¬Overrides.Accepted ("join.control-plane", "yes") := by
  have husable : Usable
      { overrides := ["join.control-plane=yes", "join.control-plane=true"] } := by
    refine ⟨?_, fun key value h => ?_, fun _ h => (nomatch h)⟩
    · simp only [List.forall_mem_cons, List.not_mem_nil, false_imp_iff, implies_true, and_true]
      exact ⟨⟨"join.control-plane", by decide⟩, ⟨"join.control-plane", by decide⟩⟩
    · obtain rfl : key = "join.control-plane" := by
        obtain ⟨text, htext, hparts⟩ := Overrides.exists_of_lastValue? h
        simp only [List.mem_cons, List.not_mem_nil, or_false] at htext
        obtain rfl | rfl := htext
        · cases hparts.symm.trans (by decide : _ = some ("join.control-plane", "yes"))
          rfl
        · cases hparts.symm.trans (by decide : _ = some ("join.control-plane", "true"))
          rfl
      cases h.symm.trans (by decide : _ = some "true")
      exact ⟨.controlPlane, rfl, Or.inl rfl⟩
  refine ⟨exists_load_eq_ok_iff.mpr ⟨fun _ h => (nomatch h), husable⟩, ?_, ?_⟩
  · exact Overrides.entry_eq_ok_iff.mpr (by decide)
  · exact mt (Overrides.accepted_key_iff (q := .controlPlane)).mp
      (by decide : ¬(trim "yes" = "true" ∨ trim "yes" = "false"))

end Sources

end NodeBootstrap
