import NodeBootstrap.Proofs.Blanks
import NodeBootstrap.Proofs.Overriding

/-!
# Texts of overrides

Overrides are read from texts one after the other into a map, where the last text for a key counts.

* `Overrides.key?`, `Overrides.lastValue?`: the key of a text, and the last value for a key;
* `Overrides.IsOverride`: the texts that can be read;
* `Overrides.mem_insert`, `Overrides.distinct_insert`: what a map has after another entry;
* **`Overrides.mem_of_ofTexts`**: a map has the last value for each key;
* **`Overrides.ofTexts_reorder`**: texts with different keys can be given in any order.
-/

namespace NodeBootstrap.Overrides

open Text

/-- The trimmed key and value of a text with an equals sign. -/
def parts? (text : String) : Option (String × String) :=
  (cut '=' text).map fun (key, value) => (trim key, trim value)

/-- The key of a text with an equals sign. -/
def key? (text : String) : Option String := (parts? text).map (·.1)

/-- The value of a text for a key, if it is one for this key. -/
def valueFor? (key text : String) : Option String :=
  ((parts? text).filter (·.1 = key)).map (·.2)

/-- The value of the last text for a key. -/
def lastValue? (key : String) : List String → Option String
  | [] => none
  | text :: texts => (lastValue? key texts).or (valueFor? key text)

/-- A text with an equals sign and more than blanks before it. -/
def IsOverride (text : String) : Prop := ∃ key, key? text = some key ∧ key ≠ ""

theorem valueFor?_eq_some_iff {key value text : String} :
    valueFor? key text = some value ↔ parts? text = some (key, value) := by
  unfold valueFor?
  rcases parts? text with _ | ⟨k, v⟩
  · simp
  · by_cases hkey : k = key
    · simp [hkey, Option.filter]
    · simp [hkey, Option.filter]

/-- The last value for a key is the value of a text for this key. -/
theorem exists_of_lastValue? {key value : String} {texts : List String}
    (h : lastValue? key texts = some value) : ∃ text ∈ texts, parts? text = some (key, value) := by
  induction texts with
  | nil => cases h
  | cons text texts ih =>
    rw [lastValue?, Option.or_eq_some_iff] at h
    rcases h with h | ⟨-, h⟩
    · obtain ⟨text', hmem, hparts⟩ := ih h
      exact ⟨text', List.mem_cons_of_mem _ hmem, hparts⟩
    · exact ⟨text, List.mem_cons_self, valueFor?_eq_some_iff.mp h⟩

/-- Values have no blanks around them. -/
theorem trim_of_lastValue? {key value : String} {texts : List String}
    (h : lastValue? key texts = some value) : trim value = value := by
  obtain ⟨text, -, hparts⟩ := exists_of_lastValue? h
  obtain ⟨⟨k, v⟩, -, hpair⟩ := Option.map_eq_some_iff.mp hparts
  cases hpair
  exact trim_trim v

/-! ## Single texts -/

section Entry

variable {text : String} {pair : String × String} {fault : OverrideFault}

theorem entry_eq_ok_iff : entry text = .ok pair ↔ parts? text = some pair ∧ pair.1 ≠ "" := by
  unfold entry parts?
  rcases cut '=' text with _ | ⟨key, value⟩
  · simp
  · by_cases hkey : trim key = ""
    · simp only [hkey, if_true, Option.map_some, Option.some.injEq]
      refine ⟨fun h => (nomatch h), ?_⟩
      rintro ⟨rfl, hne⟩
      exact absurd rfl hne
    · simp only [hkey, if_false, Option.map_some, Option.some.injEq, Except.ok.injEq]
      exact ⟨fun h => ⟨h, h ▸ hkey⟩, And.left⟩

theorem isOverride_iff : IsOverride text ↔ ∃ pair, entry text = .ok pair := by
  simp [IsOverride, key?, entry_eq_ok_iff]

theorem key?_of_entry_eq_ok (h : entry text = .ok pair) : key? text = some pair.1 := by
  rw [key?, (entry_eq_ok_iff.mp h).1, Option.map_some]

/-- A text cannot be read when it has no key or a blank one. -/
theorem key?_of_entry_eq_error (h : entry text = .error fault) :
    key? text = none ∨ key? text = some "" := by
  rcases hparts : parts? text with _ | pair
  · simp [key?, hparts]
  · by_cases hpair : pair.1 = ""
    · simp [key?, hparts, hpair]
    · cases h.symm.trans (entry_eq_ok_iff.mpr ⟨hparts, hpair⟩)

end Entry

/-! ## Maps -/

section Maps

variable {m m' : Overrides} {key value : String}

theorem mem_insert (h : Distinct m) {entry : String × String} :
    entry ∈ insert key value m ↔ entry = (key, value) ∨ entry.1 ≠ key ∧ entry ∈ m := by
  induction m with
  | nil => simp [insert]
  | cons first m ih =>
    obtain ⟨k, v⟩ := first
    obtain ⟨hfirst, hrest⟩ := List.nodup_cons.mp h
    have hother (entry : String × String) (hentry : entry ∈ m) : entry.1 ≠ k := fun heq =>
      hfirst (List.mem_map.mpr ⟨entry, hentry, heq⟩)
    rw [insert]
    split
    next hk =>
      subst hk
      simp only [List.mem_cons]
      constructor
      · rintro (rfl | hin)
        · exact Or.inl rfl
        · exact Or.inr ⟨hother entry hin, Or.inr hin⟩
      · rintro (rfl | ⟨hne, rfl | hin⟩)
        · exact Or.inl rfl
        · exact absurd rfl hne
        · exact Or.inr hin
    next hk =>
      rw [List.mem_cons, ih hrest, List.mem_cons]
      constructor
      · rintro (rfl | rfl | ⟨hne, hin⟩)
        · exact Or.inr ⟨hk, Or.inl rfl⟩
        · exact Or.inl rfl
        · exact Or.inr ⟨hne, Or.inr hin⟩
      · rintro (rfl | ⟨hne, rfl | hin⟩)
        · exact Or.inr (Or.inl rfl)
        · exact Or.inl rfl
        · exact Or.inr (Or.inr ⟨hne, hin⟩)

theorem distinct_insert (h : Distinct m) (key value : String) : Distinct (insert key value m) := by
  induction m with
  | nil => simp [insert, Distinct]
  | cons first m ih =>
    obtain ⟨k, v⟩ := first
    obtain ⟨hfirst, hrest⟩ := List.nodup_cons.mp h
    rw [insert]
    split
    next hk => exact hk ▸ h
    next hk =>
      refine List.nodup_cons.mpr ⟨fun hin => ?_, ih hrest⟩
      obtain ⟨entry, hentry, heq⟩ := List.mem_map.mp hin
      rcases (mem_insert hrest).mp hentry with rfl | ⟨-, hin⟩
      · exact hk heq.symm
      · exact hfirst (List.mem_map.mpr ⟨entry, hin, heq⟩)

/-- Maps with the same entries are the same but for their arrangement. -/
theorem perm_of_mem_iff (h : Distinct m) (h' : Distinct m')
    (hmem : ∀ entry, entry ∈ m' ↔ entry ∈ m) : m'.Perm m :=
  (List.perm_ext_iff_of_nodup h'.of_map h.of_map).mpr hmem

theorem insert_perm (h : Distinct m) (hperm : m'.Perm m) :
    (insert key value m').Perm (insert key value m) := by
  have h' : Distinct m' := (hperm.map Prod.fst).nodup_iff.mpr h
  refine perm_of_mem_iff (distinct_insert h _ _) (distinct_insert h' _ _) fun entry => ?_
  rw [mem_insert h, mem_insert h', hperm.mem_iff]

/-- Entries with different keys can be put into a map in either order. -/
theorem insert_comm (h : Distinct m) {key' value' : String} (hne : key ≠ key') :
    (insert key value (insert key' value' m)).Perm (insert key' value' (insert key value m)) := by
  have hdistinct (k v k' v' : String) : Distinct (insert k v (insert k' v' m)) :=
    distinct_insert (distinct_insert h _ _) _ _
  refine perm_of_mem_iff (hdistinct _ _ _ _) (hdistinct _ _ _ _) fun entry => ?_
  rw [mem_insert (distinct_insert h _ _), mem_insert (distinct_insert h _ _), mem_insert h,
    mem_insert h]
  constructor
  · rintro (rfl | ⟨h₁, rfl | ⟨h₂, hin⟩⟩)
    · exact Or.inr ⟨hne, Or.inl rfl⟩
    · exact Or.inl rfl
    · exact Or.inr ⟨h₂, Or.inr ⟨h₁, hin⟩⟩
  · rintro (rfl | ⟨h₁, rfl | ⟨h₂, hin⟩⟩)
    · exact Or.inr ⟨hne.symm, Or.inl rfl⟩
    · exact Or.inl rfl
    · exact Or.inr ⟨h₂, Or.inr ⟨h₁, hin⟩⟩

end Maps

/-! ## Texts one after the other -/

section Texts

variable {m m' : Overrides} {texts : List String}

theorem addTexts_cons_eq_ok_iff {text : String} : addTexts m (text :: texts) = .ok m' ↔
    ∃ key value, entry text = .ok (key, value) ∧ addTexts (insert key value m) texts = .ok m' := by
  rw [addTexts, Results.bind_eq_ok_iff]
  simp

theorem exists_addTexts_eq_ok_iff :
    (∃ m', addTexts m texts = .ok m') ↔ ∀ text ∈ texts, IsOverride text := by
  induction texts generalizing m with
  | nil => simp [addTexts]
  | cons text texts ih =>
    rw [List.forall_mem_cons, isOverride_iff]
    constructor
    · rintro ⟨m', h⟩
      obtain ⟨key, value, hentry, hrest⟩ := addTexts_cons_eq_ok_iff.mp h
      exact ⟨⟨_, hentry⟩, ih.mp ⟨m', hrest⟩⟩
    · rintro ⟨⟨⟨key, value⟩, hentry⟩, hrest⟩
      obtain ⟨m', hm'⟩ := ih.mpr hrest
      exact ⟨m', addTexts_cons_eq_ok_iff.mpr ⟨key, value, hentry, hm'⟩⟩

/-- A map has the last value for each key, and what it had before under the others. -/
theorem mem_of_addTexts (h : Distinct m) (hadd : addTexts m texts = .ok m') :
    Distinct m' ∧ ∀ key value, (key, value) ∈ m' ↔ lastValue? key texts = some value ∨
      lastValue? key texts = none ∧ (key, value) ∈ m := by
  induction texts generalizing m with
  | nil =>
    cases hadd
    simp [lastValue?, h]
  | cons text texts ih =>
    obtain ⟨k, v, hentry, hrest⟩ := addTexts_cons_eq_ok_iff.mp hadd
    obtain ⟨hdistinct, hmem⟩ := ih (distinct_insert h k v) hrest
    refine ⟨hdistinct, fun key value => ?_⟩
    rw [hmem, mem_insert h, lastValue?, valueFor?, (entry_eq_ok_iff.mp hentry).1]
    rcases lastValue? key texts with _ | last
    · by_cases hkey : k = key
      · simp [hkey, Option.filter, eq_comm]
      · simp [hkey, Ne.symm hkey, Option.filter]
    · simp

theorem exists_ofTexts_eq_ok_iff :
    (∃ m, ofTexts texts = .ok m) ↔ ∀ text ∈ texts, IsOverride text := exists_addTexts_eq_ok_iff

/-- **The map of some texts has the last value for each key.** -/
theorem mem_of_ofTexts (h : ofTexts texts = .ok m) :
    Distinct m ∧ ∀ key value, (key, value) ∈ m ↔ lastValue? key texts = some value := by
  obtain ⟨hdistinct, hmem⟩ := mem_of_addTexts (by simp [Distinct]) h
  exact ⟨hdistinct, fun key value => by simp [hmem]⟩

end Texts

/-! ## Texts in another order -/

/-- Readings with the same fault, or with maps that are the same but for their arrangement. -/
inductive Alike : Except OverrideFault Overrides → Except OverrideFault Overrides → Prop
  | fault (f : OverrideFault) : Alike (.error f) (.error f)
  | map {m m' : Overrides} (h : Distinct m) (hperm : m'.Perm m) : Alike (.ok m') (.ok m)

section Order

variable {m m' : Overrides} {texts texts' : List String}

theorem Alike.trans {r₁ r₂ r₃ : Except OverrideFault Overrides} (h₁ : Alike r₁ r₂)
    (h₂ : Alike r₂ r₃) : Alike r₁ r₃ := by
  cases h₁ with
  | fault => exact h₂
  | map _ hperm =>
    cases h₂ with
    | map h hperm' => exact .map h (hperm.trans hperm')

theorem Alike.addTexts (h : Distinct m) (hperm : m'.Perm m) (texts : List String) :
    Alike (addTexts m' texts) (addTexts m texts) := by
  induction texts generalizing m m' with
  | nil => exact .map h hperm
  | cons text texts ih =>
    unfold Overrides.addTexts
    rcases entry text with f | ⟨key, value⟩
    · exact .fault f
    · exact ih (distinct_insert h key value) (insert_perm h hperm)

/-- Different keys, where each text has one. -/
def Separate (texts : List String) : Prop :=
  none ∉ texts.map key? ∧ (texts.map key?).Nodup

theorem Separate.perm (h : Separate texts) (hperm : texts.Perm texts') : Separate texts' :=
  ⟨fun hin => h.1 ((hperm.map key?).mem_iff.mpr hin), (hperm.map key?).nodup_iff.mp h.2⟩

theorem Separate.tail {text : String} (h : Separate (text :: texts)) : Separate texts :=
  ⟨fun hin => h.1 (List.mem_cons_of_mem _ hin), (List.nodup_cons.mp h.2).2⟩

theorem Separate.heads {a b : String} (h : Separate (a :: b :: texts)) :
    key? a ≠ none ∧ key? b ≠ none ∧ key? a ≠ key? b := by
  refine ⟨fun ha => h.1 ?_, fun hb => h.1 ?_, fun hab => (List.nodup_cons.mp h.2).1 ?_⟩
  · simp [ha]
  · simp [hb]
  · simp [hab]

theorem addTexts_perm (h : Distinct m) (hperm : texts.Perm texts') (hseparate : Separate texts) :
    Alike (addTexts m texts) (addTexts m texts') := by
  induction hperm generalizing m with
  | nil => exact .map h (List.Perm.refl m)
  | cons text _ ih =>
    unfold addTexts
    rcases entry text with f | ⟨key, value⟩
    · exact .fault f
    · exact ih (distinct_insert h key value) hseparate.tail
  | swap a b texts =>
    obtain ⟨ha, hb, hne⟩ := hseparate.heads
    unfold addTexts addTexts
    rcases hentry : entry a with f | ⟨key, value⟩
    · rcases hentry' : entry b with f' | ⟨key', value'⟩
      · -- texts that cannot be read have the same key, a blank one
        have hblank := (key?_of_entry_eq_error hentry).resolve_left hb
        have hblank' := (key?_of_entry_eq_error hentry').resolve_left ha
        exact absurd (hblank'.trans hblank.symm) hne
      · exact .fault f
    · rcases hentry' : entry b with f' | ⟨key', value'⟩
      · exact .fault f'
      · refine Alike.addTexts (distinct_insert (distinct_insert h _ _) _ _) (insert_comm h ?_) texts
        rintro rfl
        exact hne ((key?_of_entry_eq_ok hentry').trans (key?_of_entry_eq_ok hentry).symm)
  | trans hperm₁ _ ih₁ ih₂ => exact (ih₁ h hseparate).trans (ih₂ h (hseparate.perm hperm₁))

theorem addTexts_append (m : Overrides) (texts more : List String) :
    addTexts m (texts ++ more) = addTexts m texts >>= fun m' => addTexts m' more := by
  induction texts generalizing m with
  | nil => rfl
  | cons text texts ih =>
    rw [List.cons_append, addTexts, addTexts, bind_assoc]
    exact bind_congr fun pair => ih _

/-- **Texts with different keys can be given in any order.** -/
theorem ofTexts_reorder (before after : List String) (hperm : texts.Perm texts')
    (hseparate : Separate texts) :
    Alike (ofTexts (before ++ texts ++ after)) (ofTexts (before ++ texts' ++ after)) := by
  unfold ofTexts
  rw [List.append_assoc, List.append_assoc, addTexts_append, addTexts_append]
  rcases hbefore : addTexts [] before with f | m
  · exact .fault f
  · have hm : Distinct m := (mem_of_ofTexts hbefore).1
    have hmiddle := addTexts_perm hm hperm hseparate
    simp only [bind, Except.bind, addTexts_append]
    generalize addTexts m texts = r, addTexts m texts' = r' at hmiddle ⊢
    cases hmiddle with
    | fault f => exact .fault f
    | map h hperm => exact Alike.addTexts h hperm after

end Order

end NodeBootstrap.Overrides
