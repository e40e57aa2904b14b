import NodeBootstrap.Parameters.Overrides
import NodeBootstrap.Proofs.ByteOrder
import NodeBootstrap.Proofs.Fields
import NodeBootstrap.Proofs.Results

/-!
# What overrides do

* `PropertyKind.Accepts`, `Overrides.Accepted`, `Overrides.Refusal`: the texts that are values, the
  entries that can be applied, and why an entry cannot be;
* `Overrides.step_eq_ok_iff`, `Overrides.step_eq_error_iff`: what a single entry comes to;
* `Overrides.Effect`: what entries do to parameters, field by field;
* `Overrides.run_course`: a run has the effect of all its entries, or of those before the first that
  is refused;
* `Overrides.sorted_pairwise`, `Overrides.sorted_congr`: the order in which the entries come;
* **`Overrides.apply_effect`**: the effect of a map of entries, whichever way it is arranged.
-/

namespace NodeBootstrap

open Text

/-! ## Values -/

namespace Taint

/-- A text that is a taint. -/
def IsTaint (spec : String) : Prop := ∃ t, parse spec = .ok t

theorem parse_eq_error_iff {spec : String} {e : Failure} :
    parse spec = .error e ↔ ¬IsTaint spec ∧ e = .invalidTaint spec := by
  unfold IsTaint parse
  rcases parse? spec.toList with _ | t
  · simp [eq_comm]
  · simp

theorem exists_parseAll_eq_ok_iff {specs : List String} :
    (∃ ts, parseAll specs = .ok ts) ↔ ∀ spec ∈ specs, IsTaint spec := by
  induction specs with
  | nil => simp [parseAll]
  | cons spec specs ih =>
    rw [List.forall_mem_cons, ← ih, parseAll]
    simp only [Results.bind_eq_ok_iff, IsTaint]
    constructor
    · rintro ⟨ts, t, ht, rest, hrest, -⟩
      exact ⟨⟨t, ht⟩, rest, hrest⟩
    · rintro ⟨⟨t, ht⟩, rest, hrest⟩
      exact ⟨_, t, ht, rest, hrest, rfl⟩

/-- The failure of the first text that is no taint. -/
theorem parseAll_eq_error_iff {specs : List String} {e : Failure} : parseAll specs = .error e ↔
    ∃ front spec back, specs = front ++ spec :: back ∧ (∀ s ∈ front, IsTaint s) ∧
      ¬IsTaint spec ∧ e = .invalidTaint spec := by
  induction specs with
  | nil => simp [parseAll]
  | cons spec specs ih =>
    simp only [parseAll, Results.bind_eq_error_iff, ih, parse_eq_error_iff]
    constructor
    · rintro (⟨hspec, rfl⟩ | ⟨t, ht, ⟨front, bad, back, rfl, hfront, hbad, rfl⟩ | ⟨ts, -, h⟩⟩)
      · exact ⟨[], spec, specs, rfl, by simp, hspec, rfl⟩
      · exact ⟨spec :: front, bad, back, rfl, List.forall_mem_cons.mpr ⟨⟨t, ht⟩, hfront⟩, hbad, rfl⟩
      · cases h
    · rintro ⟨_ | ⟨first, front⟩, bad, back, heq, hfront, hbad, rfl⟩
      · cases heq
        exact Or.inl ⟨hbad, rfl⟩
      · cases heq
        obtain ⟨⟨t, ht⟩, hrest⟩ := List.forall_mem_cons.mp hfront
        exact Or.inr ⟨t, ht, Or.inl ⟨front, bad, back, rfl, hrest, hbad, rfl⟩⟩

end Taint

namespace PropertyKind

variable {key value : String} {kind : PropertyKind}

/-- The texts that are values of a kind: all of them, but for taints and for the two words of a
flag. -/
def Accepts : PropertyKind → String → Prop
  | taints, value => ∀ spec ∈ listed value, Taint.IsTaint spec
  | flag, value => value = "true" ∨ value = "false"
  | _, _ => True

theorem exists_readFlag?_eq_some_iff :
    (∃ b, readFlag? value = some b) ↔ value = "true" ∨ value = "false" := by
  unfold readFlag?
  split <;> simp_all

/-- The values of a kind are the texts that are read. -/
theorem exists_decode_eq_ok_iff (key : String) :
    (∃ x, kind.decode key value = .ok x) ↔ kind.Accepts value := by
  cases kind with
  | plain => exact ⟨fun _ => trivial, fun _ => ⟨value, rfl⟩⟩
  | text => exact ⟨fun _ => trivial, fun _ => ⟨some value, rfl⟩⟩
  | list => exact ⟨fun _ => trivial, fun _ => ⟨listed value, rfl⟩⟩
  | taints => exact Taint.exists_parseAll_eq_ok_iff
  | flag =>
    rw [Accepts, ← exists_readFlag?_eq_some_iff, decode]
    rcases readFlag? value with _ | b
    · exact ⟨fun ⟨_, h⟩ => (nomatch h), fun ⟨_, h⟩ => (nomatch h)⟩
    · exact ⟨fun _ => ⟨b, rfl⟩, fun _ => ⟨b, rfl⟩⟩

/-- Why a text is no value of a kind. -/
inductive Rejects (key value : String) : PropertyKind → Failure → Prop
  | taint {front back : List String} {spec : String}
      (hlisted : listed value = front ++ spec :: back) (hfront : ∀ s ∈ front, Taint.IsTaint s)
      (hspec : ¬Taint.IsTaint spec) :
      Rejects key value .taints (.invalidTaint spec)
  | flag (htrue : value ≠ "true") (hfalse : value ≠ "false") :
      Rejects key value .flag (.config (.notBoolean key value))

/-- The other texts fail with what is wrong with them. -/
theorem decode_eq_error_iff {e : Failure} :
    kind.decode key value = .error e ↔ Rejects key value kind e := by
  cases kind with
  | plain => exact ⟨fun h => (nomatch h), fun h => (nomatch h)⟩
  | text => exact ⟨fun h => (nomatch h), fun h => (nomatch h)⟩
  | list => exact ⟨fun h => (nomatch h), fun h => (nomatch h)⟩
  | taints =>
    refine Taint.parseAll_eq_error_iff.trans ⟨?_, ?_⟩
    · rintro ⟨front, spec, back, hlisted, hfront, hspec, rfl⟩
      exact .taint hlisted hfront hspec
    · rintro ⟨hlisted, hfront, hspec⟩
      exact ⟨_, _, _, hlisted, hfront, hspec, rfl⟩
  | flag =>
    rw [decode]
    rcases hread : readFlag? value with _ | b
    · have hnone : ¬(value = "true" ∨ value = "false") := by
        rw [← exists_readFlag?_eq_some_iff, hread]
        simp
      constructor
      · intro h
        cases h
        exact .flag (mt Or.inl hnone) (mt Or.inr hnone)
      · intro h
        cases h
        rfl
    · refine ⟨fun h => (nomatch h), fun h => ?_⟩
      cases h with
      | flag htrue hfalse =>
        exact ((exists_readFlag?_eq_some_iff.mp ⟨b, hread⟩).elim htrue hfalse).elim

end PropertyKind

/-! ## Entries -/

namespace Overrides

/-- An entry that can be applied: its key is the key of a property, and its text is a value. -/
def Accepted (entry : String × String) : Prop :=
  ∃ q : Property, q.key = entry.1 ∧ q.kind.Accepts (trim entry.2)

theorem accepted_key_iff {q : Property} {value : String} :
    Accepted (q.key, value) ↔ q.kind.Accepts (trim value) := by
  refine ⟨?_, fun h => ⟨q, rfl, h⟩⟩
  rintro ⟨p, hp, h⟩
  obtain rfl := Property.key_injective hp
  exact h

/-- Why an entry cannot be applied. -/
inductive Refusal (entry : String × String) : Failure → Prop
  | unknown (h : ∀ q : Property, q.key ≠ entry.1) :
      Refusal entry (.config (.unknownProperty entry.1))
  | value {q : Property} {e : Failure} (hkey : q.key = entry.1)
      (h : PropertyKind.Rejects entry.1 (trim entry.2) q.kind e) : Refusal entry e

section Step

variable {ps ps' : Parameters} {key value : String} {e : Failure}

/-- An entry that can be applied sets the field of its property. -/
theorem step_eq_ok_iff : step ps key value = .ok ps' ↔
    ∃ (q : Property) (x : q.Value), q.key = key ∧ q.kind.decode key (trim value) = .ok x ∧
      ps' = q.set x ps := by
  unfold step
  rcases hq : Property.ofKey? key with _ | q
  · rw [Property.ofKey?_eq_none_iff] at hq
    refine ⟨fun h => (nomatch h), ?_⟩
    rintro ⟨q, -, hkey, -⟩
    exact absurd hkey (hq q)
  · obtain rfl := Property.ofKey?_eq_some_iff.mp hq
    refine Results.map_eq_ok_iff.trans ⟨?_, ?_⟩
    · rintro ⟨x, hx, rfl⟩
      exact ⟨q, x, rfl, hx, rfl⟩
    · rintro ⟨p, x, hkey, hx, rfl⟩
      obtain rfl := Property.key_injective hkey
      exact ⟨x, hx, rfl⟩

/-- Other entries fail with what is wrong with them, whatever the parameters. -/
theorem step_eq_error_iff : step ps key value = .error e ↔ Refusal (key, value) e := by
  unfold step
  rcases hq : Property.ofKey? key with _ | q
  · rw [Property.ofKey?_eq_none_iff] at hq
    constructor
    · intro h
      cases h
      exact .unknown hq
    · intro h
      cases h with
      | unknown => rfl
      | value hkey => exact absurd hkey (hq _)
  · obtain rfl := Property.ofKey?_eq_some_iff.mp hq
    refine (Results.map_eq_error_iff.trans PropertyKind.decode_eq_error_iff).trans ⟨?_, ?_⟩
    · exact fun h => .value rfl h
    · intro h
      cases h with
      | unknown h => exact absurd rfl (h q)
      | value hkey h =>
        obtain rfl := Property.key_injective hkey
        exact h

/-- An entry can be applied when nothing is wrong with it. -/
theorem accepted_iff {entry : String × String} : Accepted entry ↔ ∀ e, ¬Refusal entry e := by
  obtain ⟨key, value⟩ := entry
  have hok : Accepted (key, value) ↔ ∃ ps', step {} key value = .ok ps' := by
    simp only [step_eq_ok_iff, Accepted, ← PropertyKind.exists_decode_eq_ok_iff key]
    constructor
    · rintro ⟨q, rfl, x, hx⟩
      exact ⟨_, q, x, rfl, hx, rfl⟩
    · rintro ⟨_, q, x, rfl, hx, -⟩
      exact ⟨q, rfl, x, hx⟩
  simp only [hok, ← @step_eq_error_iff {} key value]
  rcases step {} key value with e | ps'
  · exact ⟨fun ⟨_, h⟩ => (nomatch h), fun h => absurd rfl (h e)⟩
  · exact ⟨fun _ _ h => (nomatch h), fun _ => ⟨ps', rfl⟩⟩

end Step

/-! ## Effects -/

/-- What entries do to parameters: each sets the field of its property, and the fields that none of
them is about stay as they are. -/
structure Effect (m : Overrides) (before after : Parameters) : Prop where
  set {key value : String} (hmem : (key, value) ∈ m) :
    ∃ q : Property, q.key = key ∧ q.kind.decode key (trim value) = .ok (q.get after)
  kept {q : Property} (h : ∀ value, (q.key, value) ∉ m) : q.get after = q.get before

section Effect

variable {m m₁ m₂ : Overrides} {ps ps₁ ps₂ : Parameters}

/-- Entries have no more than one effect. -/
theorem Effect.unique (h₁ : Effect m ps ps₁) (h₂ : Effect m ps ps₂) : ps₁ = ps₂ := by
  refine Parameters.ext_get fun q => ?_
  by_cases hnamed : ∃ value, (q.key, value) ∈ m
  · obtain ⟨value, hmem⟩ := hnamed
    obtain ⟨p₁, hp₁, hx₁⟩ := h₁.set hmem
    obtain ⟨p₂, hp₂, hx₂⟩ := h₂.set hmem
    obtain rfl := Property.key_injective hp₁
    obtain rfl := Property.key_injective hp₂
    exact Except.ok.inj (hx₁.symm.trans hx₂)
  · rw [not_exists] at hnamed
    rw [h₁.kept hnamed, h₂.kept hnamed]

/-- It does not matter how the entries are arranged. -/
theorem Effect.congr (h : Effect m₁ ps ps₁) (hmem : ∀ entry, entry ∈ m₁ ↔ entry ∈ m₂) :
    Effect m₂ ps ps₁ where
  set h' := h.set ((hmem _).mpr h')
  kept h' := h.kept fun value hv => h' value ((hmem _).mp hv)

theorem Effect.nil (ps : Parameters) : Effect [] ps ps where
  set h := (nomatch h)
  kept _ := rfl

theorem Effect.single {key value : String} (h : step ps key value = .ok ps₁) :
    Effect [(key, value)] ps ps₁ := by
  obtain ⟨q, x, rfl, hx, rfl⟩ := step_eq_ok_iff.mp h
  refine ⟨fun hmem => ?_, fun {p} hp => Property.get_set_of_ne ?_ x ps⟩
  · cases List.mem_singleton.mp hmem
    exact ⟨q, rfl, by rw [Property.get_set_self, hx]⟩
  · rintro rfl
    exact hp value (List.mem_singleton_self _)

/-- The effect of entries after others, which have other keys. -/
theorem Effect.append (h₁ : Effect m₁ ps ps₁) (h₂ : Effect m₂ ps₁ ps₂)
    (hkeys : ∀ a ∈ m₁, ∀ b ∈ m₂, a.1 ≠ b.1) : Effect (m₁ ++ m₂) ps ps₂ where
  set {key value} hmem := by
    rcases List.mem_append.mp hmem with hfirst | hsecond
    · obtain ⟨q, rfl, hx⟩ := h₁.set hfirst
      have hkept : q.get ps₂ = q.get ps₁ := h₂.kept fun _ hv => hkeys _ hfirst _ hv rfl
      exact ⟨q, rfl, by rw [hx, hkept]⟩
    · exact h₂.set hsecond
  kept h := by
    rw [h₂.kept fun value hv => h value (List.mem_append_right _ hv),
      h₁.kept fun value hv => h value (List.mem_append_left _ hv)]

end Effect

/-! ## Runs -/

/-- How a run may end: with the effect of all entries, or at one that is refused, with the effect
of those before it. -/
inductive Course (ps : Parameters) : Overrides → Parameters × Option Failure → Prop
  | whole {m : Overrides} {ps' : Parameters} (haccepted : ∀ entry ∈ m, Accepted entry)
      (heffect : Effect m ps ps') : Course ps m (ps', none)
  | stopped {front back : Overrides} {bad : String × String} {ps' : Parameters} {e : Failure}
      (haccepted : ∀ entry ∈ front, Accepted entry) (hbad : Refusal bad e)
      (heffect : Effect front ps ps') : Course ps (front ++ bad :: back) (ps', some e)

section Run

variable {m m₁ m₂ : Overrides} {ps : Parameters}

/-- Keys that come only once. -/
abbrev Distinct (m : Overrides) : Prop := (m.map Prod.fst).Nodup

theorem accepted_of_step_eq_ok {ps' : Parameters} {key value : String}
    (h : step ps key value = .ok ps') : Accepted (key, value) := by
  refine accepted_iff.mpr fun e hrefusal => ?_
  cases h.symm.trans (step_eq_error_iff.mpr hrefusal)

theorem run_course (h : Distinct m) (ps : Parameters) : Course ps m (run ps m) := by
  induction m generalizing ps with
  | nil => exact .whole (by simp) (.nil ps)
  | cons entry rest ih =>
    obtain ⟨key, value⟩ := entry
    obtain ⟨hkey, hrest⟩ := List.nodup_cons.mp h
    -- the rest of the run leaves what the first entry sets
    have hother : ∀ front : Overrides, front ⊆ rest →
        ∀ a ∈ [(key, value)], ∀ b ∈ front, a.1 ≠ b.1 := by
      intro front hfront a ha b hb heq
      cases List.mem_singleton.mp ha
      exact hkey (List.mem_map.mpr ⟨b, hfront hb, heq.symm⟩)
    rcases hstep : step ps key value with e | ps' <;> simp only [run, hstep]
    · have hnone : ∀ entry ∈ ([] : Overrides), Accepted entry := by simp
      exact .stopped hnone (step_eq_error_iff.mp hstep) (.nil ps)
    · have hfirst := accepted_of_step_eq_ok hstep
      have hcourse := ih hrest ps'
      generalize run ps' rest = result at hcourse ⊢
      rcases hcourse with ⟨haccepted, heffect⟩ | ⟨haccepted, hbad, heffect⟩
      · exact .whole (List.forall_mem_cons.mpr ⟨hfirst, haccepted⟩)
          ((Effect.single hstep).append heffect (hother _ (List.Subset.refl _)))
      · rw [← List.cons_append]
        exact .stopped (List.forall_mem_cons.mpr ⟨hfirst, haccepted⟩) hbad
          ((Effect.single hstep).append heffect (hother _ (List.subset_append_left _ _)))

/-! ### The order of keys -/

theorem sorted_perm (m : Overrides) : (sorted m).Perm m := List.mergeSort_perm _ _

/-- Sorted entries come with ever greater keys. -/
theorem sorted_pairwise (h : Distinct m) : (sorted m).Pairwise fun a b => a.1 < b.1 :=
  pairwise_sorted h

theorem sorted_congr (h : Distinct m) (hperm : m₁.Perm m) : sorted m₁ = sorted m :=
  sorted_eq_of_perm h hperm

/-- It does not matter how a map is arranged. -/
theorem apply_perm (h : Distinct m) (hperm : m₁.Perm m) (ps : Parameters) :
    apply m₁ ps = apply m ps := by
  rw [apply, apply, sorted_congr h hperm]

/-! ### All entries -/

theorem apply_course (h : Distinct m) (ps : Parameters) : Course ps (sorted m) (apply m ps) :=
  run_course (((sorted_perm m).map Prod.fst).nodup_iff.mpr h) ps

theorem apply_snd_eq_none_iff (h : Distinct m) :
    (apply m ps).2 = none ↔ ∀ entry ∈ m, Accepted entry := by
  have hcourse := apply_course h ps
  simp only [← (sorted_perm m).mem_iff]
  generalize sorted m = entries, apply m ps = result at hcourse ⊢
  cases hcourse with
  | whole haccepted => exact ⟨fun _ => haccepted, fun _ => rfl⟩
  | @stopped front back bad _ _ _ hbad =>
    refine ⟨fun h => (nomatch h), fun h => ?_⟩
    exact absurd hbad (accepted_iff.mp (h bad (by simp)) _)

theorem effect_of_apply_snd_eq_none (h : Distinct m) (hnone : (apply m ps).2 = none) :
    Effect m ps (apply m ps).1 := by
  have hcourse := apply_course h ps
  refine Effect.congr (?_ : Effect (sorted m) ps _) fun entry => (sorted_perm m).mem_iff
  generalize sorted m = entries, apply m ps = result at hcourse hnone ⊢
  cases hcourse with
  | whole _ heffect => exact heffect
  | stopped => cases hnone

/-- The entries with smaller keys, byte by byte. -/
def below (m : Overrides) (key : String) : Overrides :=
  m.filter fun entry => Utf8.encode entry.1 < Utf8.encode key

/-- A run ends at the entry with the smallest key of those that are refused. -/
theorem exists_of_apply_snd_eq_some (h : Distinct m) {e : Failure}
    (hsome : (apply m ps).2 = some e) : ∃ bad ∈ m, Refusal bad e ∧
      (∀ other ∈ m, ¬Accepted other → Utf8.encode bad.1 ≤ Utf8.encode other.1) ∧
      Effect (m.below bad.1) ps (apply m ps).1 := by
  have hcourse := apply_course h ps
  have hsorted := sorted_pairwise h
  have hmem : ∀ entry, entry ∈ sorted m ↔ entry ∈ m := fun entry => (sorted_perm m).mem_iff
  generalize sorted m = entries, apply m ps = result at hcourse hsorted hmem hsome ⊢
  cases hcourse with
  | whole => cases hsome
  | @stopped front back bad _ _ haccepted hbad heffect =>
    obtain rfl := Option.some.inj hsome
    obtain ⟨-, hback, hfront⟩ := List.pairwise_append.mp hsorted
    replace hback := (List.pairwise_cons.mp hback).1
    replace hfront := fun entry hentry => hfront entry hentry bad List.mem_cons_self
    refine ⟨bad, (hmem bad).mp (by simp), hbad, fun other hother hrefused => ?_, ?_⟩
    · rcases List.mem_append.mp ((hmem other).mpr hother) with hin | hin
      · exact absurd (haccepted other hin) hrefused
      · rcases List.mem_cons.mp hin with rfl | hin
        · exact List.le_refl _
        · exact List.le_of_lt (Utf8.encode_lt (hback other hin))
    · refine heffect.congr fun entry => ?_
      rw [below, List.mem_filter, ← hmem entry, decide_eq_true_eq, Utf8.encode_lt_iff]
      refine ⟨fun hin => ⟨List.mem_append_left _ hin, hfront entry hin⟩, ?_⟩
      rintro ⟨hin, hlt⟩
      rcases List.mem_append.mp hin with hin | hin
      · exact hin
      · rcases List.mem_cons.mp hin with rfl | hin
        · exact absurd hlt (lt_irrefl _)
        · exact absurd hlt (lt_asymm (hback entry hin))

/-- Maps with disjoint keys one after the other have the effect of their union. -/
theorem apply_apply (h : Distinct m) (hperm : (m₁ ++ m₂).Perm m) (hnone : (apply m ps).2 = none) :
    (apply m₁ ps).2 = none ∧ apply m₂ (apply m₁ ps).1 = apply m ps := by
  have hboth : Distinct (m₁ ++ m₂) := (hperm.map Prod.fst).nodup_iff.mpr h
  have hmem : ∀ entry, entry ∈ m₁ ++ m₂ ↔ entry ∈ m := fun entry => hperm.mem_iff
  have haccepted := (apply_snd_eq_none_iff h).mp hnone
  rw [Distinct, List.map_append] at hboth
  obtain ⟨h₁, h₂, hkeys⟩ := List.nodup_append.mp hboth
  have hnone₁ : (apply m₁ ps).2 = none := (apply_snd_eq_none_iff h₁).mpr fun entry hin =>
    haccepted entry ((hmem entry).mp (List.mem_append_left _ hin))
  have hnone₂ : (apply m₂ (apply m₁ ps).1).2 = none := (apply_snd_eq_none_iff h₂).mpr
    fun entry hin => haccepted entry ((hmem entry).mp (List.mem_append_right _ hin))
  have heffect : Effect (m₁ ++ m₂) ps (apply m₂ (apply m₁ ps).1).1 :=
    (effect_of_apply_snd_eq_none h₁ hnone₁).append (effect_of_apply_snd_eq_none h₂ hnone₂)
      fun a ha b hb => hkeys _ (List.mem_map_of_mem ha) _ (List.mem_map_of_mem hb)
  refine ⟨hnone₁, Prod.ext ?_ (hnone₂.trans hnone.symm)⟩
  exact (heffect.congr hmem).unique (effect_of_apply_snd_eq_none h hnone)

end Run

/-! ## The effect of a map -/

/-- **A map of entries succeeds if and only if each entry has the key of a property and a value of
its kind. Then it sets just the fields that its entries are about, however it is arranged, and
also if it is taken in two parts. Otherwise it fails for the smallest key that is refused, with
the effect of the smaller keys.** -/
theorem apply_effect (m : Overrides) (h : Distinct m) (ps : Parameters) :
    ((apply m ps).2 = none ↔ ∀ entry ∈ m, Accepted entry) ∧
      ((apply m ps).2 = none → Effect m ps (apply m ps).1) ∧
      (∀ m' : Overrides, m'.Perm m → apply m' ps = apply m ps) ∧
      (∀ m₁ m₂ : Overrides, (m₁ ++ m₂).Perm m → (apply m ps).2 = none →
        ((apply m₁ ps).2 = none ∧ apply m₂ (apply m₁ ps).1 = apply m ps) ∧
          ((apply m₂ ps).2 = none ∧ apply m₁ (apply m₂ ps).1 = apply m ps)) ∧
      (∀ e, (apply m ps).2 = some e → ∃ bad ∈ m, Refusal bad e ∧
        (∀ other ∈ m, ¬Accepted other → Utf8.encode bad.1 ≤ Utf8.encode other.1) ∧
          Effect (m.below bad.1) ps (apply m ps).1) := by
  refine ⟨apply_snd_eq_none_iff h, effect_of_apply_snd_eq_none h,
    fun m' hperm => apply_perm h hperm ps, fun m₁ m₂ hperm hnone => ⟨?_, ?_⟩,
    fun e => exists_of_apply_snd_eq_some h⟩
  · exact apply_apply h hperm hnone
  · exact apply_apply h (List.perm_append_comm.trans hperm) hnone

/-- A flag that is neither `true` nor `false` ends the run between the keys on its two sides. -/
theorem apply_effect_of_unread_flag :
    ∃ after : Parameters,
      apply [("node.name", "a"), ("join.control-plane", "yes"), ("cluster.name", " prod ")] {} =
        (after, some (.config (.notBoolean "join.control-plane" "yes"))) ∧
      after.clusterName = some "prod" ∧ after.nodeName = none := by
  have hname : Accepted ("node.name", "a") := ⟨.nodeName, rfl, trivial⟩
  have hcluster : Accepted ("cluster.name", " prod ") := ⟨.clusterName, rfl, trivial⟩
  have hflag : ¬Accepted ("join.control-plane", "yes") :=
    mt (accepted_key_iff (q := .controlPlane)).mp
      (by decide : ¬(trim "yes" = "true" ∨ trim "yes" = "false"))
  obtain ⟨hiff, -, -, -, hsome⟩ := apply_effect
    [("node.name", "a"), ("join.control-plane", "yes"), ("cluster.name", " prod ")] (by decide) {}
  generalize apply _ _ = result at *
  obtain ⟨after, _ | e⟩ := result
  · exact absurd (hiff.mp rfl _ (by simp)) hflag
  · obtain ⟨bad, hbad, hrefusal, -, heffect⟩ := hsome e rfl
    simp only [List.mem_cons, List.not_mem_nil, or_false] at hbad
    obtain rfl | rfl | rfl := hbad
    · exact absurd hrefusal (accepted_iff.mp hname e)
    · refine ⟨after, ?_, ?_, ?_⟩
      · cases hrefusal with
        | unknown h => exact absurd rfl (h .controlPlane)
        | value hq h =>
          obtain rfl := Property.key_injective (show _ = Property.controlPlane.key from hq)
          cases h
          rfl
      · have hlt : "cluster.name" < "join.control-plane" := String.lt_iff_toList_lt.mpr (by decide)
        have hmem : ("cluster.name", " prod ") ∈ below [("node.name", "a"),
            ("join.control-plane", "yes"), ("cluster.name", " prod ")] "join.control-plane" := by
          rw [below, List.mem_filter, decide_eq_true_eq, Utf8.encode_lt_iff]
          exact ⟨by simp, hlt⟩
        obtain ⟨q, hq, hx⟩ := heffect.set hmem
        obtain rfl := Property.key_injective (show q.key = Property.clusterName.key from hq)
        have htrim : trim " prod " = "prod" := by decide
        rw [htrim] at hx
        exact (Except.ok.inj hx).symm
      · refine heffect.kept (q := .nodeName) fun value hv => ?_
        rw [below, List.mem_filter, decide_eq_true_eq, Utf8.encode_lt_iff] at hv
        exact absurd (String.lt_iff_toList_lt.mp hv.2)
          (by decide : ¬"node.name".toList < "join.control-plane".toList)
    · exact absurd hrefusal (accepted_iff.mp hcluster e)

end Overrides

end NodeBootstrap
