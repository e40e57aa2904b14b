import NodeBootstrap.Proofs.ByteOrder
import Mathlib.Tactic.IntervalCases

/-!
# The bytes of a character

A character that is not an ASCII one is a first byte, which says how many others follow and between
which bounds the first of these lies, and these others. That is what makes its bytes be read again.

* `Utf8.Leads`, `Utf8.leads_of_lead?`, `Utf8.lead?_of_leads`: what a first byte says;
* `Utf8.Follows`, `Utf8.value`: bytes that may follow it, and what all of them are;
* **`Utf8.encodeChar_value`**, **`Utf8.exists_of_encodeChar`**: these are bytes of a character, and
  the bytes of a character are these;
* `Utf8.Stuck`, `Utf8.complete_cases`: bytes do follow, or they are stuck somewhere.
-/

namespace NodeBootstrap.Utf8

/-! ## First bytes -/

/-- The shares that a first byte can have of a character, by the number of bytes that follow. -/
def Leads (count share : Nat) : Prop :=
  count = 1 ∧ 2 ≤ share ∧ share < 32 ∨ count = 2 ∧ share < 16 ∨ count = 3 ∧ share < 5

instance (count share : Nat) : Decidable (Leads count share) :=
  inferInstanceAs (Decidable (_ ∨ _))

/-- The least byte that can follow a first one. -/
def least (count share : Nat) : UInt8 :=
  if share = 0 then if count = 2 then 0xA0 else 0x90 else 0x80

/-- The greatest byte that can follow a first one. -/
def greatest (count share : Nat) : UInt8 :=
  if count = 2 ∧ share = 13 then 0x9F else if count = 3 ∧ share = 4 then 0x8F else 0xBF

section bounds

variable (count share : Nat)

theorem toNat_least : (least count share).toNat =
    if share = 0 then if count = 2 then 0xA0 else 0x90 else 0x80 := by
  unfold least
  split_ifs <;> rfl

theorem toNat_greatest : (greatest count share).toNat =
    if count = 2 ∧ share = 13 then 0x9F else if count = 3 ∧ share = 4 then 0x8F else 0xBF := by
  unfold greatest
  split_ifs <;> rfl

theorem least_le_greatest : least count share ≤ greatest count share := by
  rw [UInt8.le_iff_toNat_le, toNat_least, toNat_greatest]
  split_ifs <;> omega

theorem le_least : 0x80 ≤ least count share := by
  rw [UInt8.le_iff_toNat_le, toNat_least]
  split_ifs <;> decide

theorem greatest_le : greatest count share ≤ 0xBF := by
  rw [UInt8.le_iff_toNat_le, toNat_greatest]
  split_ifs <;> decide

end bounds

variable {count share n : Nat} {b lo hi : UInt8} {fs gs rest more : List UInt8}

theorem leads_ofNat (h : n < 256) : ∀ s ∈ lead? (.ofNat n),
    Leads s.2.1 s.1 ∧ n = s.1 + mark s.2.1 ∧
      s.2.2.1 = least s.2.1 s.1 ∧ s.2.2.2 = greatest s.2.1 s.1 := by
  revert n
  decide +kernel

theorem leads_of_lead? (h : lead? b = some (share, count, lo, hi)) :
    Leads count share ∧ b.toNat = share + mark count ∧
      lo = least count share ∧ hi = greatest count share :=
  leads_ofNat b.toNat_lt _ (by rwa [UInt8.ofNat_toNat])

theorem lead?_of_leads (h : Leads count share) : lead? (.ofNat (share + mark count)) =
    some (share, count, least count share, greatest count share) := by
  rcases h with ⟨rfl, h₁, h₂⟩ | ⟨rfl, h⟩ | ⟨rfl, h⟩ <;> interval_cases share <;> rfl

theorem not_ascii_of_lead? {s : Nat × Nat × UInt8 × UInt8} (h : lead? b = some s) :
    ¬ b < 0x80 := by
  intro hb
  have hlow : b < 0xC2 := UInt8.lt_trans hb (by decide)
  rw [lead?, if_pos hlow] at h
  cases h

/-! ## Bytes that follow -/

/-- Bytes that follow the first one of a character: their number, and bounds of their first. -/
inductive Follows : (count : Nat) → (lo hi : UInt8) → List UInt8 → Prop
  | nil {lo hi : UInt8} : Follows 0 lo hi []
  | cons {count : Nat} {lo hi b : UInt8} {fs : List UInt8} (hb : lo ≤ b ∧ b ≤ hi)
      (h : Follows count 0x80 0xBF fs) : Follows (count + 1) lo hi (b :: fs)

/-- The number that a share of a character and the bytes that follow make. -/
def value : (share : Nat) → List UInt8 → Nat
  | share, [] => share
  | share, f :: fs => value (share * 64 + f.toNat % 64) fs

/-- Whatever the first byte, those that follow are low ones. -/
theorem Follows.low (h : Follows count (least count share) (greatest count share) fs) :
    Follows count 0x80 0xBF fs := by
  cases h with
  | nil => exact .nil
  | cons hf h =>
    exact .cons ⟨UInt8.le_trans (le_least _ _) hf.1, UInt8.le_trans hf.2 (greatest_le _ _)⟩ h

theorem follows_low (n count : Nat) : Follows count 0x80 0xBF (low n count) := by
  induction count with
  | zero => exact .nil
  | succ count ih =>
    refine .cons ⟨?_, ?_⟩ ih <;> rw [UInt8.le_iff_toNat_le, UInt8.toNat_ofNat']
    · change 128 ≤ _
      omega
    · change _ ≤ 191
      omega

/-- The share and the bytes that follow are found again in the number that they make. -/
theorem low_value (h : Follows count 0x80 0xBF fs) (share : Nat) :
    value share fs / 64 ^ count = share ∧ low (value share fs) count = fs := by
  induction fs generalizing count share with
  | nil =>
    cases h
    exact ⟨Nat.div_one _, rfl⟩
  | cons f fs ih =>
    cases h with
    | @cons count _ _ _ _ hf h =>
      obtain ⟨hdiv, hlow⟩ := ih h (share * 64 + f.toNat % 64)
      have hf : 128 ≤ f.toNat ∧ f.toNat ≤ 191 := hf
      rw [value, low, hdiv, hlow, Nat.pow_succ, ← Nat.div_div_eq_div_mul, hdiv]
      refine ⟨by omega, congrArg (· :: fs) ?_⟩
      rw [← UInt8.toNat_inj, UInt8.toNat_ofNat']
      omega

/-! ## Characters -/

theorem toNat_ofNat (h : n < 0xD800 ∨ 0xDFFF < n ∧ n < 0x110000) : (Char.ofNat n).toNat = n := by
  have hvalid : n.isValidChar := h
  rw [Char.ofNat, dif_pos hvalid]
  rfl

theorem Spans.unique {j k : Nat} (hj : Spans j n) (hk : Spans k n) : j = k := by
  unfold Spans at hj hk
  omega

/-- The bounds of what follows a first byte leave out what is shorter or no character. -/
theorem spans_value (hleads : Leads count share)
    (h : Follows count (least count share) (greatest count share) fs) :
    Spans count (value share fs) ∧
      (value share fs < 0xD800 ∨ 0xDFFF < value share fs ∧ value share fs < 0x110000) := by
  cases h with
  | nil => simp [Leads] at hleads
  | @cons count _ _ f fs hf h =>
    obtain ⟨hdiv, -⟩ := low_value h (share * 64 + f.toNat % 64)
    have hlo : (least (count + 1) share).toNat ≤ f.toNat := hf.1
    have hhi : f.toNat ≤ (greatest (count + 1) share).toNat := hf.2
    rw [toNat_least] at hlo
    rw [toNat_greatest] at hhi
    rw [value]
    generalize value (share * 64 + f.toNat % 64) fs = m at hdiv
    unfold Leads at hleads
    unfold Spans
    have hcount : count < 3 := by omega
    interval_cases count <;> split_ifs at hlo hhi <;> omega

/-- They leave out nothing else. -/
theorem leads_div (h : Spans (count + 1) n) (hvalid : n < 0xD800 ∨ 0xDFFF < n ∧ n < 0x110000) :
    Leads (count + 1) (n / 64 ^ (count + 1)) ∧
      Follows (count + 1) (least (count + 1) (n / 64 ^ (count + 1)))
        (greatest (count + 1) (n / 64 ^ (count + 1))) (low n (count + 1)) := by
  unfold Spans at h
  have hcount : count < 3 := by omega
  constructor
  · unfold Leads
    interval_cases count <;> omega
  · refine .cons ⟨?_, ?_⟩ (follows_low n count) <;> rw [UInt8.le_iff_toNat_le, UInt8.toNat_ofNat']
    · rw [toNat_least]
      interval_cases count <;> split_ifs <;> omega
    · rw [toNat_greatest]
      interval_cases count <;> split_ifs <;> omega

theorem encodeChar_ne_nil (c : Char) : String.utf8EncodeChar c ≠ [] := by
  obtain ⟨more, -, h⟩ := exists_encodeChar_eq c
  rw [h]
  exact List.cons_ne_nil _ _

theorem encodeChar_injective {c d : Char}
    (h : String.utf8EncodeChar c = String.utf8EncodeChar d) : c = d := by
  have irrefl : ∀ as : List UInt8, ¬ Before as as := fun as has =>
    List.lt_irrefl _ (has.append_lt [] [])
  rcases lt_trichotomy c d with hlt | heq | hgt
  · exact absurd (h ▸ before_encodeChar hlt) (irrefl _)
  · exact heq
  · exact absurd (h ▸ before_encodeChar hgt) (irrefl _)

theorem encodeChar_ascii (h : b < 0x80) : String.utf8EncodeChar (Char.ofNat b.toNat) = [b] := by
  have hlt : b.toNat < 128 := h
  obtain ⟨more, hmore, hbytes⟩ := exists_encodeChar_eq (Char.ofNat b.toNat)
  rw [toNat_ofNat (by omega)] at hmore hbytes
  obtain rfl : more = 0 := by unfold Spans at hmore; omega
  rw [hbytes, lead, low, mark, Nat.pow_zero, Nat.div_one, Nat.add_zero, UInt8.ofNat_toNat]

/-- **A first byte and bytes that may follow it are a character.** -/
theorem encodeChar_value (h : lead? b = some (share, count, lo, hi))
    (hfs : Follows count lo hi fs) :
    String.utf8EncodeChar (Char.ofNat (value share fs)) = b :: fs := by
  obtain ⟨hleads, hb, rfl, rfl⟩ := leads_of_lead? h
  obtain ⟨hspans, hvalid⟩ := spans_value hleads hfs
  obtain ⟨more, hmore, hbytes⟩ := exists_encodeChar_eq (Char.ofNat (value share fs))
  rw [toNat_ofNat hvalid] at hmore hbytes
  obtain rfl := hmore.unique hspans
  obtain ⟨hdiv, hlow⟩ := low_value hfs.low share
  rw [hbytes, hlow, lead, hdiv, ← hb, UInt8.ofNat_toNat]

/-- **A character is an ASCII byte**, or a first byte and bytes that may follow it. -/
theorem exists_of_encodeChar {c : Char} (h : String.utf8EncodeChar c = b :: fs) :
    b < 0x80 ∧ fs = [] ∨
      ∃ share count lo hi, lead? b = some (share, count, lo, hi) ∧ Follows count lo hi fs := by
  obtain ⟨more, hmore, hbytes⟩ := exists_encodeChar_eq c
  rw [hbytes] at h
  obtain ⟨rfl, rfl⟩ := List.cons.inj h
  cases more with
  | zero =>
    have hn : c.toNat < 128 := by unfold Spans at hmore; omega
    refine .inl ⟨?_, rfl⟩
    rw [UInt8.lt_iff_toNat_lt, UInt8.toNat_ofNat', Nat.mod_eq_of_lt (lead_lt hmore)]
    simpa [lead, mark] using hn
  | succ more =>
    obtain ⟨hleads, hfollows⟩ := leads_div hmore c.valid
    exact .inr ⟨_, _, _, _, lead?_of_leads hleads, hfollows⟩

theorem follows_of_encodeChar (hlead : lead? b = some (share, count, lo, hi)) {c : Char}
    (h : String.utf8EncodeChar c = b :: fs) : Follows count lo hi fs := by
  rcases exists_of_encodeChar h with ⟨hb, -⟩ | ⟨share', count', lo', hi', hlead', hfs⟩
  · exact absurd hb (not_ascii_of_lead? hlead)
  · obtain ⟨-, rfl, rfl, rfl⟩ : share = share' ∧ count = count' ∧ lo = lo' ∧ hi = hi' := by
      simpa [hlead] using hlead'
    exact hfs

/-! ## Bytes that are stuck -/

/-- Bytes that do not go on as those that follow a first byte: where they stop, and what is next. -/
inductive Stuck : (count : Nat) → (lo hi : UInt8) → (fs rest : List UInt8) → Prop
  | here {count : Nat} {lo hi : UInt8} {rest : List UInt8}
      (h : ∀ b ∈ rest.head?, ¬ (lo ≤ b ∧ b ≤ hi)) : Stuck (count + 1) lo hi [] rest
  | next {count : Nat} {lo hi b : UInt8} {fs rest : List UInt8} (hb : lo ≤ b ∧ b ≤ hi)
      (h : Stuck count 0x80 0xBF fs rest) : Stuck (count + 1) lo hi (b :: fs) rest

/-- Nothing goes on further than bytes do that are stuck. -/
theorem Stuck.longest (h : Stuck count lo hi fs rest) (hgs : gs <+: fs ++ rest)
    (hfollows : Follows count lo hi (gs ++ more)) : gs.length ≤ fs.length ∧ more ≠ [] := by
  induction h generalizing gs with
  | @here count lo hi rest hhead =>
    cases gs with
    | nil =>
      refine ⟨Nat.le_refl _, ?_⟩
      rintro rfl
      cases hfollows
    | cons g gs =>
      obtain ⟨tail, rfl⟩ := hgs
      cases hfollows with
      | cons hg _ => exact absurd hg (hhead g rfl)
  | @next count lo hi b fs rest hb _ ih =>
    cases gs with
    | nil =>
      refine ⟨Nat.zero_le _, ?_⟩
      rintro rfl
      cases hfollows
    | cons g gs =>
      obtain ⟨rfl, htail⟩ := List.cons_prefix_cons.mp hgs
      cases hfollows with
      | cons _ hfollows =>
        obtain ⟨hle, hmore⟩ := ih htail hfollows
        exact ⟨Nat.succ_le_succ hle, hmore⟩

theorem exists_follows (count : Nat) (hle : lo ≤ hi) : ∃ more, Follows count lo hi more := by
  induction count generalizing lo hi with
  | zero => exact ⟨[], .nil⟩
  | succ count ih =>
    obtain ⟨more, hmore⟩ := ih (by decide : (0x80 : UInt8) ≤ 0xBF)
    exact ⟨lo :: more, .cons ⟨UInt8.le_refl _, hle⟩ hmore⟩

/-- Other bytes could have gone on from there. -/
theorem Stuck.exists_follows (h : Stuck count lo hi fs rest) (hle : lo ≤ hi) :
    ∃ more, Follows count lo hi (fs ++ more) := by
  induction h with
  | here _ => exact Utf8.exists_follows _ hle
  | next hb _ ih =>
    obtain ⟨more, hmore⟩ := ih (by decide)
    exact ⟨more, .cons hb hmore⟩

/-! ## Reading what follows -/

theorem complete_eq (h : Follows count lo hi fs) (share : Nat) (rest : List UInt8) :
    complete count share lo hi (fs ++ rest) = (Char.ofNat (value share fs), rest) := by
  induction h generalizing share with
  | nil => rfl
  | cons hb _ ih => rw [List.cons_append, complete, if_pos hb, ih, value]

/-- Bytes do follow a first one, or they are stuck and replaced. -/
theorem complete_cases (count share : Nat) (lo hi : UInt8) (bs : List UInt8) :
    (∃ fs rest, bs = fs ++ rest ∧ Follows count lo hi fs) ∨
      ∃ fs rest, bs = fs ++ rest ∧ Stuck count lo hi fs rest ∧
        complete count share lo hi bs = (replacement, rest) := by
  induction count generalizing share lo hi bs with
  | zero => exact .inl ⟨[], bs, rfl, .nil⟩
  | succ count ih =>
    cases bs with
    | nil => exact .inr ⟨[], [], rfl, .here (by simp), rfl⟩
    | cons b bs =>
      by_cases hb : lo ≤ b ∧ b ≤ hi
      · rw [complete, if_pos hb]
        rcases ih (share * 64 + b.toNat % 64) 0x80 0xBF bs with
          ⟨fs, rest, rfl, h⟩ | ⟨fs, rest, rfl, h, heq⟩
        · exact .inl ⟨b :: fs, rest, rfl, .cons hb h⟩
        · exact .inr ⟨b :: fs, rest, rfl, .next hb h, heq⟩
      · refine .inr ⟨[], b :: bs, rfl, .here (by simpa using hb), ?_⟩
        rw [complete, if_neg hb]

end NodeBootstrap.Utf8
