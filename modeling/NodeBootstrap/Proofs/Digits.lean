import NodeBootstrap.Text.Blank
import NodeBootstrap.Text.Decimal

/-!
# Characters of seven bits, and digits

* `Ascii.forall_of_decide`: what can be checked of all characters of seven bits;
* `Decimal.isDigit_of_mem_digits`: a number is written with digits only;
* `Decimal.digits_eq_toDigits`: the digits are those that the library writes;
* **`Decimal.value_digits`**: and they denote it;
* `Decimal.Denotes`, `Decimal.read?_eq_some_iff`: the texts that are read as a number.
-/

namespace NodeBootstrap

/-- A character of seven bits. -/
def Ascii (c : Char) : Prop := c.toNat < 128

/-- What holds of each of the characters of seven bits. -/
theorem Ascii.forall_of_decide {P : Char → Prop} (h : ∀ n < 128, P (Char.ofNat n)) {c : Char}
    (hc : Ascii c) : P c := by
  have hP := h c.toNat hc
  rwa [Char.ofNat_toNat] at hP

theorem Ascii.of_le {c d : Char} (h : c ≤ d) (hd : Ascii d) : Ascii c :=
  Nat.lt_of_le_of_lt (show c.toNat ≤ d.toNat from h) hd

namespace Decimal

theorem ascii_of_isDigit {c : Char} (h : isDigit c = true) : Ascii c := by
  rw [isDigit, Bool.and_eq_true, decide_eq_true_eq, decide_eq_true_eq] at h
  exact .of_le h.2 (show '9'.toNat < 128 by decide)

theorem not_isBlank_of_isDigit {c : Char} (h : isDigit c = true) : isBlank c = false :=
  (ascii_of_isDigit h).forall_of_decide (P := fun c => isDigit c = true → isBlank c = false)
    (by decide) h

theorem isDigit_digitChar {n : Nat} (h : n < 10) : isDigit (digitChar n) = true := by
  have hall : ∀ n < 10, isDigit (digitChar n) = true := by decide
  exact hall n h

theorem digitValue_digitChar {n : Nat} (h : n < 10) : digitValue (digitChar n) = n := by
  have hall : ∀ n < 10, digitValue (digitChar n) = n := by decide
  exact hall n h

theorem digitChar_eq {n : Nat} (h : n < 10) : digitChar n = n.digitChar := by
  have hall : ∀ n < 10, digitChar n = n.digitChar := by decide
  exact hall n h

theorem digits_eq_toDigits (n : Nat) : digits n = Nat.toDigits 10 n := by
  induction n using digits.induct with
  | case1 n hn => rw [digits, if_pos hn, Nat.toDigits_of_lt_base hn, digitChar_eq hn]
  | case2 n hn ih =>
    rw [digits, if_neg hn, ih, digitChar_eq (Nat.mod_lt n (by decide)),
      ← Nat.toDigits_of_base_le (by decide) (Nat.le_of_not_lt hn)]

/-- A number is written with digits only. -/
theorem isDigit_of_mem_digits {n : Nat} {c : Char} (h : c ∈ digits n) : isDigit c = true := by
  induction n using digits.induct with
  | case1 n hn =>
    rw [digits, if_pos hn, List.mem_singleton] at h
    rw [h]
    exact isDigit_digitChar hn
  | case2 n hn ih =>
    rw [digits, if_neg hn, List.mem_append, List.mem_singleton] at h
    rcases h with h | rfl
    · exact ih h
    · exact isDigit_digitChar (Nat.mod_lt n (by decide))

theorem digits_ne_nil (n : Nat) : digits n ≠ [] := by
  rw [digits]
  split
  · simp
  · simp

/-- **The digits of a number denote it.** -/
theorem value_digits (n : Nat) : value (digits n) = n := by
  induction n using digits.induct with
  | case1 n hn =>
    rw [digits, if_pos hn]
    simp [value, valueFrom, digitValue_digitChar hn]
  | case2 n hn ih =>
    have hlast := digitValue_digitChar (Nat.mod_lt n (show 10 > 0 by decide))
    rw [digits, if_neg hn, value, valueFrom, List.foldl_append]
    change value (digits (n / 10)) * 10 + digitValue (digitChar (n % 10)) = n
    rw [ih, hlast]
    omega

/-! ## Reading numbers -/

/-- A text of a number: a plus sign, or not, and digits with or without leading zeros. -/
def Denotes (cs : List Char) (n : Nat) : Prop :=
  ∃ sign ds, cs = sign ++ ds ∧ (sign = [] ∨ sign = ['+']) ∧ ds ≠ [] ∧
    (∀ c ∈ ds, isDigit c = true) ∧ value ds = n

theorem denotes_digits (n : Nat) : Denotes (digits n) n :=
  ⟨[], digits n, rfl, Or.inl rfl, digits_ne_nil n, fun _ hc => isDigit_of_mem_digits hc,
    value_digits n⟩

theorem Denotes.isDigit_of_mem {cs : List Char} {n : Nat} (h : Denotes cs n) {c : Char}
    (hc : c ∈ cs) : c = '+' ∨ isDigit c = true := by
  obtain ⟨sign, ds, rfl, hsign, -, hds, -⟩ := h
  rcases List.mem_append.mp hc with hc | hc
  · rcases hsign with rfl | rfl
    · cases hc
    · exact Or.inl (List.mem_singleton.mp hc)
  · exact Or.inr (hds c hc)

theorem read?_eq_some_iff {bound n : Nat} {cs : List Char} :
    read? bound cs = some n ↔ Denotes cs n ∧ n < bound := by
  have hread (ds : List Char) : (if ds ≠ [] ∧ ds.all isDigit then
      if value ds < bound then some (value ds) else none else none) = some n ↔
        (ds ≠ [] ∧ (∀ c ∈ ds, isDigit c = true) ∧ value ds = n) ∧ n < bound := by
    split
    next hds =>
      have hall := List.all_eq_true.mp hds.2
      split
      next hbound =>
        rw [Option.some_inj]
        exact ⟨fun heq => ⟨⟨hds.1, hall, heq⟩, heq ▸ hbound⟩, fun h => h.1.2.2⟩
      next hbound => exact iff_of_false (by simp) fun h => hbound (h.1.2.2 ▸ h.2)
    next hds =>
      exact iff_of_false (by simp) fun h => hds ⟨h.1.1, List.all_eq_true.mpr h.1.2.1⟩
  simp only [read?]
  split
  next r =>
    refine (hread r).trans (and_congr_left' ⟨fun h => ⟨['+'], r, rfl, Or.inr rfl, h⟩, ?_⟩)
    rintro ⟨sign, ds, heq, rfl | rfl, hds⟩
    · obtain rfl : ds = '+' :: r := heq.symm
      exact absurd (hds.2.1 '+' (by simp)) (by decide)
    · cases heq
      exact hds
  next hplus =>
    refine (hread cs).trans (and_congr_left' ⟨fun h => ⟨[], cs, rfl, Or.inl rfl, h⟩, ?_⟩)
    rintro ⟨sign, ds, rfl, rfl | rfl, hds⟩
    · exact hds
    · exact absurd rfl (hplus ds)

/-- A text denotes one number. -/
theorem Denotes.unique {cs : List Char} {m n : Nat} (hm : Denotes cs m) (hn : Denotes cs n) :
    m = n := by
  have hread {k : Nat} (hk : Denotes cs k) (h : k < m + n + 1) : read? (m + n + 1) cs = some k :=
    read?_eq_some_iff.mpr ⟨hk, h⟩
  exact Option.some.inj ((hread hm (by omega)).symm.trans (hread hn (by omega)))

end Decimal

end NodeBootstrap
