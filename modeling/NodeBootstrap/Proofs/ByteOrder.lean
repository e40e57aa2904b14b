import NodeBootstrap.Text.Utf8
import Mathlib.Data.String.Basic

/-!
# The order of bytes

Texts are ordered by their characters. Their bytes have the same order, so that it does not matter
which of the two they are sorted by.

* `Utf8.Before`: bytes that differ at some place, where the first ones are smaller;
* `Utf8.before_encodeChar`: so do the bytes of two characters;
* **`Utf8.encode_lt_iff`**: the bytes of texts have the order of the texts;
* `pairwise_sorted`, `sorted_eq_of_perm`: what is sorted by keys that differ has one order.
-/

namespace NodeBootstrap.Utf8

/-! ## Bytes of a character -/

/-- The last bytes of a character, which hold six bits each. -/
def low (n : Nat) : (count : Nat) → List UInt8
  | 0 => []
  | count + 1 => .ofNat (n / 64 ^ count % 64 + 0x80) :: low n count

/-- What marks the first byte of a character that so many more bytes follow. -/
def mark : (more : Nat) → Nat
  | 0 => 0
  | 1 => 0xC0
  | 2 => 0xE0
  | _ => 0xF0

/-- The first byte of a character that so many more bytes follow. -/
def lead (more n : Nat) : Nat := n / 64 ^ more + mark more

/-- The characters that so many bytes follow after the first. -/
def Spans (more n : Nat) : Prop :=
  more = 0 ∧ n < 0x80 ∨ more = 1 ∧ 0x80 ≤ n ∧ n < 0x800 ∨ more = 2 ∧ 0x800 ≤ n ∧ n < 0x10000 ∨
    more = 3 ∧ 0x10000 ≤ n ∧ n < 0x110000

variable {j k m n : Nat}

theorem lead_lt (h : Spans k n) : lead k n < 256 := by
  rcases h with ⟨rfl, hn⟩ | ⟨rfl, hn⟩ | ⟨rfl, hn⟩ | ⟨rfl, hn⟩ <;> simp only [lead, mark] <;> omega

/-- A greater character that takes another number of bytes has a greater first byte. -/
theorem lead_lt_lead (hj : Spans j m) (hk : Spans k n) (hne : j ≠ k) (h : m < n) :
    lead j m < lead k n := by
  rcases hj with ⟨rfl, hm⟩ | ⟨rfl, hm⟩ | ⟨rfl, hm⟩ | ⟨rfl, hm⟩ <;>
    rcases hk with ⟨rfl, hn⟩ | ⟨rfl, hn⟩ | ⟨rfl, hn⟩ | ⟨rfl, hn⟩ <;>
    simp only [lead, mark] <;> omega

theorem exists_encodeChar_eq (c : Char) : ∃ more, Spans more c.toNat ∧
    String.utf8EncodeChar c = .ofNat (lead more c.toNat) :: low c.toNat more := by
  have hvalid : c.toNat < 0x110000 := by
    rcases c.valid with h | ⟨-, h⟩
    · exact h.trans (by decide)
    · exact h
  have hval : c.val.toNat = c.toNat := rfl
  unfold String.utf8EncodeChar Spans
  simp only [hval]
  by_cases h₀ : c.toNat ≤ 0x7F
  · exact ⟨0, by omega, by simp [h₀, low, lead, mark]⟩
  by_cases h₁ : c.toNat ≤ 0x7FF
  · refine ⟨1, by omega, ?_⟩
    rw [if_neg h₀, if_pos h₁, Nat.mod_eq_of_lt (b := 0x20) (by omega)]
    simp [low, lead, mark]
  by_cases h₂ : c.toNat ≤ 0xFFFF
  · refine ⟨2, by omega, ?_⟩
    rw [if_neg h₀, if_neg h₁, if_pos h₂, Nat.mod_eq_of_lt (b := 0x10) (by omega)]
    simp [low, lead, mark]
  · refine ⟨3, by omega, ?_⟩
    rw [if_neg h₀, if_neg h₁, if_neg h₂, Nat.mod_eq_of_lt (b := 0x08) (by omega)]
    simp [low, lead, mark]

/-! ## Bytes that differ -/

/-- Bytes that differ at some place, where the first ones are smaller. -/
def Before (as bs : List UInt8) : Prop :=
  ∃ common a b as' bs', as = common ++ a :: as' ∧ bs = common ++ b :: bs' ∧ a < b

section Before

variable {as bs : List UInt8}

theorem Before.append_lt (h : Before as bs) (cs ds : List UInt8) : as ++ cs < bs ++ ds := by
  obtain ⟨common, a, b, as', bs', rfl, rfl, hlt⟩ := h
  rw [List.append_assoc, List.append_assoc]
  exact List.append_left_lt (List.cons_lt_cons_iff.mpr (Or.inl hlt))

theorem Before.head (h : m < n) (hn : n < 256) (as bs : List UInt8) :
    Before (.ofNat m :: as) (.ofNat n :: bs) := by
  refine ⟨[], _, _, as, bs, rfl, rfl, ?_⟩
  rw [UInt8.lt_iff_toNat_lt, UInt8.toNat_ofNat', UInt8.toNat_ofNat']
  omega

theorem Before.cons (h : Before as bs) (a : UInt8) : Before (a :: as) (a :: bs) := by
  obtain ⟨common, x, y, as', bs', rfl, rfl, hlt⟩ := h
  exact ⟨a :: common, x, y, as', bs', rfl, rfl, hlt⟩

end Before

theorem before_low (h : m < n) (count : Nat) (heq : m / 64 ^ count = n / 64 ^ count) :
    Before (low m count) (low n count) := by
  induction count with
  | zero =>
    rw [Nat.pow_zero, Nat.div_one, Nat.div_one] at heq
    exact absurd heq h.ne
  | succ count ih =>
    rw [Nat.pow_succ, ← Nat.div_div_eq_div_mul, ← Nat.div_div_eq_div_mul] at heq
    rcases (Nat.div_le_div_right h.le : m / 64 ^ count ≤ n / 64 ^ count).eq_or_lt with hsame | hless
    · rw [low, low, hsame]
      exact (ih hsame).cons _
    · exact Before.head (by omega) (by omega) _ _

/-- Characters take their bytes with their order. -/
theorem before_encodeChar {c d : Char} (h : c < d) :
    Before (String.utf8EncodeChar c) (String.utf8EncodeChar d) := by
  have hlt : c.toNat < d.toNat := h
  obtain ⟨j, hj, hc⟩ := exists_encodeChar_eq c
  obtain ⟨k, hk, hd⟩ := exists_encodeChar_eq d
  rw [hc, hd]
  by_cases hjk : j = k
  · subst hjk
    rcases (Nat.div_le_div_right hlt.le : c.toNat / 64 ^ j ≤ d.toNat / 64 ^ j).eq_or_lt with
      hsame | hless
    · rw [lead, lead, hsame]
      exact (before_low hlt j hsame).cons _
    · exact Before.head (Nat.add_lt_add_right hless _) (lead_lt hk) _ _
  · exact Before.head (lead_lt_lead hj hk hjk hlt) (lead_lt hk) _ _

theorem encode_lt {s t : String} (h : s < t) : encode s < encode t := by
  rw [String.lt_iff_toList_lt] at h
  unfold encode
  generalize s.toList = cs at *
  generalize t.toList = ds at *
  induction h with
  | @nil d ds =>
    obtain ⟨more, -, hd⟩ := exists_encodeChar_eq d
    rw [List.flatMap_cons, hd]
    exact List.nil_lt_cons _ _
  | rel hlt => exact (before_encodeChar hlt).append_lt _ _
  | cons _ ih => exact List.append_left_lt ih

/-- **The bytes of texts have the order of the texts.** -/
theorem encode_lt_iff {s t : String} : encode s < encode t ↔ s < t := by
  refine ⟨fun h => ?_, encode_lt⟩
  rcases lt_trichotomy s t with hlt | rfl | hgt
  · exact hlt
  · exact absurd h (List.lt_irrefl _)
  · exact absurd h (List.lt_asymm (encode_lt hgt))

end NodeBootstrap.Utf8

/-! ## Sorted by keys -/

namespace NodeBootstrap

variable {α κ : Type} [LE κ] [LT κ] [DecidableLE κ] [Std.IsLinearOrder κ] [Std.LawfulOrderLT κ]
  {f : α → κ} {l l' : List α}

/-- What has different keys comes, sorted by them, with ever greater ones. -/
theorem pairwise_sorted (h : (l.map f).Nodup) :
    (l.mergeSort fun a b => f a ≤ f b).Pairwise fun a b => f a < f b := by
  have hle : (l.mergeSort fun a b => f a ≤ f b).Pairwise
      fun a b => (f a ≤ f b : Bool) :=
    List.pairwise_mergeSort (fun a b c hab hbc => by
      simp only [decide_eq_true_eq] at hab hbc ⊢
      exact Std.le_trans hab hbc) (fun a b => by
      simpa using Std.le_total) l
  have hne : (l.mergeSort fun a b => f a ≤ f b).Pairwise fun a b => f a ≠ f b :=
    List.pairwise_map.mp (((List.mergeSort_perm _ _).map f).nodup_iff.mpr h)
  refine (hle.and hne).imp fun hab => ?_
  exact Std.lt_of_le_of_ne (by simpa using hab.1) hab.2

/-- It does not matter how it was arranged before. -/
theorem sorted_eq_of_perm (h : (l.map f).Nodup) (hperm : l'.Perm l) :
    (l'.mergeSort fun a b => f a ≤ f b) = l.mergeSort fun a b => f a ≤ f b := by
  have h' : (l'.map f).Nodup := (hperm.map f).nodup_iff.mpr h
  have hsorted := ((List.mergeSort_perm l' fun a b => f a ≤ f b).trans hperm).trans
    (List.mergeSort_perm l fun a b => f a ≤ f b).symm
  refine hsorted.eq_of_pairwise (fun a b _ _ hab hba => ?_)
    (pairwise_sorted h') (pairwise_sorted h)
  exact absurd (Std.le_of_lt hba) (Std.not_le.mpr hab)

end NodeBootstrap
