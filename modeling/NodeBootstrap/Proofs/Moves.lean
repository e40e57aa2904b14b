import NodeBootstrap.Proofs.Results
import NodeBootstrap.Upgrade.Plan
import Mathlib.Tactic.SplitIfs

/-!
# Versions and the moves between them

* `Version.lt_iff`, `Version.le_iff`: the order of versions by their numbers;
* `Version.move_eq_patch_iff`, `Version.move_eq_minor_iff`: the two allowed moves;
* `Version.move_minorBase`: the first release of a minor line reaches all others of the line;
* `Version.Reaches`, `Version.reaches_iff`: the versions that an allowed move leads to;
* **`Version.Reaches.between`**: a move may be taken up from anywhere on its way;
* `Plan.of_eq_ok_iff`: when there is a plan, and which;
* `Selection.exists_of_minorBase`: whether a version is supported depends on its minor line only;
* `Selection.flat_of`, `Selection.grouped_of`: what follows from the minor line for the documents.
-/

namespace NodeBootstrap

namespace Version

variable {a b c : Version}

theorem compare_uint64 (m n : UInt64) : compare m n = compare m.toNat n.toNat := by
  simp only [compare, compareOfLessAndEq, UInt64.lt_iff_toNat_lt, ← UInt64.toNat_inj]

theorem lt_iff : a < b ↔ a.major.toNat < b.major.toNat ∨ a.major.toNat = b.major.toNat ∧
    (a.minor.toNat < b.minor.toNat ∨ a.minor.toNat = b.minor.toNat ∧
      a.patch.toNat < b.patch.toNat) := by
  change compare a b = .lt ↔ _
  change (compare a.major b.major).then _ = .lt ↔ _
  simp only [compare_uint64, Ordering.then_eq_lt, Nat.compare_eq_lt, Nat.compare_eq_eq]

theorem le_iff : a ≤ b ↔ a.major.toNat < b.major.toNat ∨ a.major.toNat = b.major.toNat ∧
    (a.minor.toNat < b.minor.toNat ∨ a.minor.toNat = b.minor.toNat ∧
      a.patch.toNat ≤ b.patch.toNat) := by
  change ((compare a.major b.major).then _).isLE = true ↔ _
  simp only [compare_uint64, Ordering.isLE_then_iff_or, Nat.compare_eq_lt, Nat.compare_eq_eq,
    Nat.isLE_compare]

/-! ## Moves -/

theorem move_eq_patch_iff : a.move b = .ok .patch ↔ a.major.toNat = b.major.toNat ∧
    a.minor.toNat = b.minor.toNat ∧ a.patch.toNat ≤ b.patch.toNat := by
  simp only [move, ne_eq, UInt64.lt_iff_toNat_lt, ← UInt64.toNat_inj]
  split_ifs with hmajor hminor hline hpatch hgap
  · exact iff_of_false (by simp) (by omega)
  · exact iff_of_false (by simp) (by omega)
  · exact iff_of_true rfl (by omega)
  · exact iff_of_false (by simp) (by omega)
  · exact iff_of_false (by simp) (by omega)
  · exact iff_of_false (by simp) (by omega)

theorem move_eq_minor_iff : a.move b = .ok .minor ↔ a.major.toNat = b.major.toNat ∧
    b.minor.toNat = a.minor.toNat + 1 := by
  have hgap : a.minor.toNat ≤ b.minor.toNat →
      (b.minor - a.minor).toNat = b.minor.toNat - a.minor.toNat := fun h =>
    UInt64.toNat_sub_of_le _ _ (UInt64.le_iff_toNat_le.mpr h)
  have hone : Move.minorLimit.toNat = 1 := rfl
  simp only [move, ne_eq, UInt64.lt_iff_toNat_lt, ← UInt64.toNat_inj]
  split_ifs with hmajor hminor hline hpatch hlimit
  · exact iff_of_false (by simp) (by omega)
  · exact iff_of_false (by simp) (by omega)
  · exact iff_of_false (by simp) (by omega)
  · exact iff_of_false (by simp) (by omega)
  · exact iff_of_true rfl (by omega)
  · exact iff_of_false (by simp) (by omega)

/-- The first release of a minor line reaches all others of the line. -/
theorem move_minorBase (v : Version) : v.minorBase.move v = .ok .patch :=
  move_eq_patch_iff.mpr ⟨rfl, rfl, Nat.zero_le _⟩

/-- A version that an allowed move leads to. -/
structure Reaches (a b : Version) : Prop where
  le : a ≤ b
  major : b.major = a.major
  minor : b.minor.toNat ≤ a.minor.toNat + 1

theorem reaches_iff : a.Reaches b ↔ ∃ move, a.move b = .ok move := by
  constructor
  · rintro ⟨hle, hmajor, hminor⟩
    rw [le_iff] at hle
    rw [← UInt64.toNat_inj] at hmajor
    by_cases hline : a.minor.toNat = b.minor.toNat
    · exact ⟨.patch, move_eq_patch_iff.mpr (by omega)⟩
    · exact ⟨.minor, move_eq_minor_iff.mpr (by omega)⟩
  · rintro ⟨_ | _, hmove⟩
    · rw [move_eq_patch_iff] at hmove
      exact ⟨le_iff.mpr (by omega), UInt64.toNat_inj.mp (by omega), by omega⟩
    · rw [move_eq_minor_iff] at hmove
      exact ⟨le_iff.mpr (by omega), UInt64.toNat_inj.mp (by omega), by omega⟩

protected theorem le_refl (a : Version) : a ≤ a := by
  rw [le_iff]
  omega

protected theorem le_trans (h : a ≤ b) (h' : b ≤ c) : a ≤ c := by
  rw [le_iff] at h h' ⊢
  omega

protected theorem not_le : ¬a ≤ b ↔ b < a := by
  rw [le_iff, lt_iff]
  omega

/-- **A move may be taken up from anywhere on its way.** -/
theorem Reaches.between (h : a.Reaches c) (hab : a ≤ b) (hbc : b ≤ c) :
    a.Reaches b ∧ b.Reaches c := by
  obtain ⟨hle, hmajor, hminor⟩ := h
  have hab' := le_iff.mp hab
  have hbc' := le_iff.mp hbc
  rw [← UInt64.toNat_inj] at hmajor
  exact ⟨⟨hab, UInt64.toNat_inj.mp (by omega), by omega⟩,
    ⟨hbc, UInt64.toNat_inj.mp (by omega), by omega⟩⟩

end Version

/-! ## Plans -/

namespace Plan

/-- **There is a plan exactly for an allowed move to a supported version.** -/
theorem of_eq_ok_iff {o : Observation} {target : Version} {p : Plan} :
    of o target = .ok p ↔ ∃ move selection, o.current.move target = .ok move ∧
      Selection.of target = .ok selection ∧
      p = ⟨o, target, move, stagingOf target move, selection.generation⟩ := by
  constructor
  · intro h
    obtain ⟨move, hmove, h⟩ := Results.bind_eq_ok_iff.mp h
    obtain ⟨selection, hselection, h⟩ := Results.bind_eq_ok_iff.mp h
    cases h
    exact ⟨move, selection, hmove, hselection, rfl⟩
  · rintro ⟨move, selection, hmove, hselection, rfl⟩
    rw [of, hmove, hselection]
    rfl

theorem target_of {o : Observation} {target : Version} {p : Plan} (h : of o target = .ok p) :
    p.target = target := by
  obtain ⟨move, selection, -, -, rfl⟩ := of_eq_ok_iff.mp h
  rfl

end Plan

/-! ## Supported versions -/

namespace Selection

variable {v : Version} {s : Selection}

theorem of_eq_ok_iff : of v = .ok s ↔ v.major = Generation.supportedMajor ∧
    ∃ g, Generation.ofMinor? v.minor = some g ∧ s = ⟨v, g, decide (v < encryptionFlagChange)⟩ := by
  unfold of of?
  by_cases hmajor : v.major = Generation.supportedMajor
  · rcases hminor : Generation.ofMinor? v.minor with _ | g
    · simp [hmajor]
    · simp [hmajor, eq_comm]
  · simp [hmajor]

/-- Whether a version is supported depends on its minor line only. -/
theorem exists_of_minorBase (h : of v = .ok s) : ∃ base, of v.minorBase = .ok base := by
  obtain ⟨hmajor, g, hminor, -⟩ := of_eq_ok_iff.mp h
  exact ⟨_, of_eq_ok_iff.mpr ⟨hmajor, g, hminor, rfl⟩⟩

theorem mem_lines_of (h : of v = .ok s) : (v.minor, s.generation) ∈ Generation.lines := by
  obtain ⟨-, g, hg, rfl⟩ := of_eq_ok_iff.mp h
  obtain ⟨line, hline, rfl⟩ := Option.map_eq_some_iff.mp hg
  have hminor : line.1 = v.minor := by simpa using List.find?_some hline
  exact hminor ▸ List.mem_of_find?_eq_some hline

theorem legacyEncryptionFlag_of (h : of v = .ok s) :
    s.legacyEncryptionFlag = decide (v.minor < 13) := by
  obtain ⟨hmajor, g, -, rfl⟩ := of_eq_ok_iff.mp h
  have hone : v.major.toNat = 1 := by rw [hmajor]; rfl
  have hlt : v < encryptionFlagChange ↔ v.minor < 13 := by
    rw [Version.lt_iff, UInt64.lt_iff_toNat_lt, hone]
    simp [encryptionFlagChange]
  simp only [hlt]

/-- The twelfth line has the flat layout and the longer flag. -/
theorem flat_of (h : of v = .ok s) (hminor : v.minor = 12) :
    s.generation = .v1alpha3 ∧ s.encryptionFlag = "experimental-encryption-provider-config" := by
  have hline := mem_lines_of h
  have hlegacy := legacyEncryptionFlag_of h
  rw [hminor] at hline hlegacy
  have hgeneration : s.generation = .v1alpha3 := by simpa [Generation.lines] using hline
  have hflag : s.legacyEncryptionFlag = true := hlegacy
  rw [encryptionFlag, hflag]
  exact ⟨hgeneration, rfl⟩

/-- The lines after the twelfth have the grouped layout and the shorter flag. -/
theorem grouped_of (h : of v = .ok s) (hminor : 13 ≤ v.minor) :
    s.generation.flatComponents = false ∧ s.encryptionFlag = "encryption-provider-config" := by
  have hline := mem_lines_of h
  have hlegacy := legacyEncryptionFlag_of h
  constructor
  · cases hg : s.generation with
    | v1alpha3 =>
      have htwelve : v.minor = 12 := by simpa [Generation.lines, hg] using hline
      rw [htwelve] at hminor
      exact absurd hminor (by decide)
    | v1beta1 => rfl
    | v1beta2 => rfl
  · rw [encryptionFlag, hlegacy, decide_eq_false (UInt64.not_lt.mpr hminor)]
    rfl

end Selection

end NodeBootstrap
