import NodeBootstrap.Proofs.Moves
import Mathlib.Logic.Basic

/-!
# The policy of moves

The numbers of two versions decide whether a move between them is allowed, and of which kind it is.

* `Version.Refused`, `Version.move_eq_error_iff`: when a move is refused, and for which reason;
* `Version.minor_split`: a move to the next minor line goes by way of its first release;
* `Version.patch_patch`, `Version.minor_patch`, `Version.patch_minor`: moves one after the other;
* `Version.eq_of_moves`: only a version and itself are reached both ways;
* **`Version.move_policy`**: all of this of any two versions.
-/

namespace NodeBootstrap

namespace Version

variable {a b c : Version}

/-! ## Refusals -/

/-- Why a move is refused: it changes the major number, it goes back, or it leaves lines out. -/
inductive Refused (a b : Version) : Failure → Prop where
  | majorUpgrade (hmajor : a.major ≠ b.major) : Refused a b (.majorUpgrade a b)
  | downgrade (hmajor : a.major = b.major) (hback : b < a) : Refused a b (.downgrade a b)
  | skewTooLarge (gap : UInt64) (hmajor : a.major = b.major)
      (hgap : gap.toNat = b.minor.toNat - a.minor.toNat) (htwo : 2 ≤ gap.toNat) :
      Refused a b (.skewTooLarge a b 1 gap)

theorem refused_of_move {e : Failure} (h : a.move b = .error e) : Refused a b e := by
  simp only [move] at h
  split_ifs at h with hmajor hminor hline hpatch hgap
  · cases h
    exact .majorUpgrade hmajor
  · cases h
    rw [UInt64.lt_iff_toNat_lt] at hminor
    refine .downgrade (not_not.mp hmajor) (lt_iff.mpr (Or.inr ⟨?_, Or.inl hminor⟩))
    rw [not_not.mp hmajor]
  · cases h
    rw [UInt64.lt_iff_toNat_lt] at hpatch
    refine .downgrade (not_not.mp hmajor) (lt_iff.mpr (Or.inr ⟨?_, Or.inr ⟨?_, hpatch⟩⟩))
    · rw [not_not.mp hmajor]
    · rw [hline]
  · cases h
    have hle : a.minor ≤ b.minor := UInt64.not_lt.mp hminor
    exact .skewTooLarge _ (not_not.mp hmajor) (UInt64.toNat_sub_of_le _ _ hle)
      (UInt64.lt_iff_toNat_lt.mp hgap)

theorem Refused.move_eq {e : Failure} (h : Refused a b e) : a.move b = .error e := by
  cases h with
  | majorUpgrade hmajor => rw [move, if_pos hmajor]
  | downgrade hmajor hback =>
    rw [lt_iff] at hback
    rw [move, if_neg (not_not.mpr hmajor)]
    simp only [UInt64.lt_iff_toNat_lt, ← UInt64.toNat_inj]
    rw [← UInt64.toNat_inj] at hmajor
    by_cases hminor : b.minor.toNat < a.minor.toNat
    · rw [if_pos hminor]
    · rw [if_neg hminor, if_pos (by omega), if_pos (by omega)]
  | skewTooLarge gap hmajor hgap htwo =>
    have hsub : b.minor - a.minor = gap := UInt64.toNat_inj.mp <| by
      rw [UInt64.toNat_sub_of_le _ _ (UInt64.le_iff_toNat_le.mpr (by omega)), hgap]
    have hone : Move.minorLimit.toNat = 1 := rfl
    rw [move, if_neg (not_not.mpr hmajor), hsub]
    simp only [UInt64.lt_iff_toNat_lt, ← UInt64.toNat_inj]
    rw [if_neg (by omega), if_neg (by omega), if_pos (by omega)]
    rfl

/-- A move is refused for the one reason there is. -/
theorem move_eq_error_iff {e : Failure} : a.move b = .error e ↔ Refused a b e :=
  ⟨refused_of_move, Refused.move_eq⟩

/-! ## Moves one after the other -/

/-- A move to the next minor line goes by way of its first release. -/
theorem minor_split (h : a.move b = .ok .minor) :
    a.move b.minorBase = .ok .minor ∧ b.minorBase.move b = .ok .patch :=
  have hnumbers := move_eq_minor_iff.mp h
  ⟨move_eq_minor_iff.mpr hnumbers, move_minorBase b⟩

theorem patch_patch (hab : a.move b = .ok .patch) (hbc : b.move c = .ok .patch) :
    a.move c = .ok .patch := by
  rw [move_eq_patch_iff] at hab hbc ⊢
  omega

theorem minor_patch (hab : a.move b = .ok .minor) (hbc : b.move c = .ok .patch) :
    a.move c = .ok .minor := by
  rw [move_eq_minor_iff] at hab ⊢
  rw [move_eq_patch_iff] at hbc
  omega

theorem patch_minor (hab : a.move b = .ok .patch) (hbc : b.move c = .ok .minor) :
    a.move c = .ok .minor := by
  rw [move_eq_patch_iff] at hab
  rw [move_eq_minor_iff] at hbc ⊢
  omega

theorem le_antisymm (hab : a ≤ b) (hba : b ≤ a) : a = b := by
  rw [le_iff] at hab hba
  obtain ⟨amajor, aminor, apatch⟩ := a
  obtain ⟨bmajor, bminor, bpatch⟩ := b
  rw [mk.injEq, ← UInt64.toNat_inj, ← UInt64.toNat_inj, ← UInt64.toNat_inj]
  dsimp only at hab hba
  omega

/-- Only a version and itself are reached both ways. -/
theorem eq_of_moves (hab : ∃ move, a.move b = .ok move) (hba : ∃ move, b.move a = .ok move) :
    a = b :=
  le_antisymm (reaches_iff.mpr hab).le (reaches_iff.mpr hba).le

/-! ## The policy -/

/-- **A move within a minor line to the same or a later release is a patch, one to the next minor
line is minor, and any other is refused for the one reason there is. A minor move goes by way of
the first release of its line. Patches make a patch, and a minor move with a patch before or after
it is minor. Only a version and itself are reached both ways, and a move may be taken up from
anywhere on its way.** -/
theorem move_policy (a b : Version) :
    (a.move b = .ok .patch ↔ a.major = b.major ∧ a.minor = b.minor ∧ a.patch ≤ b.patch) ∧
    (a.move b = .ok .minor ↔ a.major = b.major ∧ b.minor.toNat = a.minor.toNat + 1) ∧
    (∀ e, a.move b = .error e ↔ Refused a b e) ∧
    (a.move b = .ok .minor →
      a.move b.minorBase = .ok .minor ∧ b.minorBase.move b = .ok .patch) ∧
    (∀ c, (a.move b = .ok .patch → b.move c = .ok .patch → a.move c = .ok .patch) ∧
      (a.move b = .ok .minor → b.move c = .ok .patch → a.move c = .ok .minor) ∧
      (a.move b = .ok .patch → b.move c = .ok .minor → a.move c = .ok .minor)) ∧
    ((∃ move, a.move b = .ok move) ∧ (∃ move, b.move a = .ok move) ↔ a = b) ∧
    ∀ c, (∃ move, a.move b = .ok move) → a ≤ c → c ≤ b → ∃ move, c.move b = .ok move := by
  refine ⟨?_, ?_, fun e => move_eq_error_iff, minor_split,
    fun c => ⟨patch_patch, minor_patch, patch_minor⟩, ⟨fun h => eq_of_moves h.1 h.2, ?_⟩,
    fun c hab hac hcb => ?_⟩
  · rw [move_eq_patch_iff, UInt64.toNat_inj, UInt64.toNat_inj, ← UInt64.le_iff_toNat_le]
  · rw [move_eq_minor_iff, UInt64.toNat_inj]
  · rintro rfl
    have hstay : a.move a = .ok .patch := move_eq_patch_iff.mpr ⟨rfl, rfl, Nat.le_refl _⟩
    exact ⟨⟨_, hstay⟩, ⟨_, hstay⟩⟩
  · exact reaches_iff.mp ((reaches_iff.mpr hab).between hac hcb).2

end Version

end NodeBootstrap
