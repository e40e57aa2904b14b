import NodeBootstrap.Proofs.CharBytes

/-!
# What bytes stand for

Any bytes stand for one text. Where they begin with a character, it is the first of the text;
elsewhere the longest part of them that could start a character, or else one byte, is replaced.

* `Utf8.Broken`: bytes that begin with no character, and the part of them that is replaced;
* `Utf8.Decoded`: the text that bytes stand for, character by character and part by part;
* **`Utf8.decoded_iff`**: it is the one that they are decoded to;
* **`Utf8.decode_append_ascii`**: ASCII bytes may be decoded apart from what surrounds them.
-/

namespace NodeBootstrap.Utf8

/-- The bytes start a character. -/
def Begins (bs : List UInt8) : Prop := ∃ c : Char, bs <+: String.utf8EncodeChar c

/-- A part of bytes that one replacement may stand for: the start of a character, or one byte. -/
def Replaceable (part : List UInt8) : Prop := Begins part ∨ part.length = 1

/-- Bytes that begin with no character, and the longest start of them that is replaceable. -/
structure Broken (part bs : List UInt8) : Prop where
  ne_nil : part ≠ []
  none : ∀ c : Char, ¬ String.utf8EncodeChar c <+: part ++ bs
  replaceable : Replaceable part
  longest : ∀ other, other <+: part ++ bs → Replaceable other → other.length ≤ part.length

/-- The text that bytes stand for: each character for its bytes, and a replacement for each
longest part that is of no character. -/
inductive Decoded : List UInt8 → List Char → Prop
  | nil : Decoded [] []
  | char (c : Char) {bs : List UInt8} {cs : List Char} (h : Decoded bs cs) :
      Decoded (String.utf8EncodeChar c ++ bs) (c :: cs)
  | broken {part bs : List UInt8} {cs : List Char} (hpart : Broken part bs) (h : Decoded bs cs) :
      Decoded (part ++ bs) (replacement :: cs)

variable {count share : Nat} {b lo hi : UInt8} {part bs fs rest : List UInt8} {cs : List Char}

/-! ## The first character -/

theorem Begins.mono (h : Begins bs) (hle : part <+: bs) : Begins part := by
  obtain ⟨c, hc⟩ := h
  exact ⟨c, hle.trans hc⟩

/-- A byte that starts no character is replaced alone. -/
theorem broken_of_not_begins (h : ¬ Begins [b]) (rest : List UInt8) : Broken [b] rest := by
  have none : ∀ part, Begins part → part <+: [b] ++ rest → part = [] := by
    intro part hpart hle
    cases part with
    | nil => rfl
    | cons x part =>
      obtain ⟨rfl, -⟩ := List.cons_prefix_cons.mp hle
      exact absurd (hpart.mono (List.cons_prefix_cons.mpr ⟨rfl, List.nil_prefix⟩)) h
  refine ⟨List.cons_ne_nil _ _, fun c hc => ?_, .inr rfl, fun other hother hrep => ?_⟩
  · exact encodeChar_ne_nil c (none _ ⟨c, List.prefix_refl _⟩ hc)
  · rcases hrep with hbegins | hone
    · simp [none other hbegins hother]
    · exact hone.le

/-- A first byte is replaced with all bytes after it that may follow. -/
theorem broken_of_stuck (hlead : lead? b = some (share, count, lo, hi))
    (h : Stuck count lo hi fs rest) : Broken (b :: fs) rest := by
  have hle : lo ≤ hi := by
    obtain ⟨-, -, rfl, rfl⟩ := leads_of_lead? hlead
    exact least_le_greatest count share
  refine ⟨List.cons_ne_nil _ _, fun c hc => ?_, .inl ?_, fun other hother hrep => ?_⟩
  · obtain ⟨g, gs, hgs⟩ := List.exists_cons_of_ne_nil (encodeChar_ne_nil c)
    rw [hgs] at hc
    obtain ⟨rfl, hpre⟩ := List.cons_prefix_cons.mp hc
    have hfollows := follows_of_encodeChar hlead hgs
    exact (h.longest hpre (by rwa [List.append_nil])).2 rfl
  · obtain ⟨more, hmore⟩ := h.exists_follows hle
    exact ⟨_, more, (encodeChar_value hlead hmore).symm⟩
  · rcases hrep with ⟨c, more, hc⟩ | hone
    · cases other with
      | nil => exact Nat.zero_le _
      | cons g gs =>
        obtain ⟨rfl, hpre⟩ := List.cons_prefix_cons.mp hother
        exact Nat.succ_le_succ (h.longest hpre (follows_of_encodeChar hlead hc.symm)).1
    · rw [hone]
      exact Nat.succ_le_succ (Nat.zero_le _)

/-- The first of some bytes that begin with a character is this character. -/
theorem first_encodeChar {c : Char} (h : String.utf8EncodeChar c = b :: fs) (rest : List UInt8) :
    first b (fs ++ rest) = (c, rest) := by
  rcases exists_of_encodeChar h with ⟨hb, rfl⟩ | ⟨share, count, lo, hi, hlead, hfs⟩
  · rw [first, if_pos hb, encodeChar_injective ((encodeChar_ascii hb).trans h.symm)]
    rfl
  · rw [first, if_neg (not_ascii_of_lead? hlead), hlead]
    change complete count share lo hi (fs ++ rest) = _
    rw [complete_eq hfs, encodeChar_injective ((encodeChar_value hlead hfs).trans h.symm)]

/-- Bytes begin with a character, or with a part that is replaced. -/
theorem first_cases (b : UInt8) (bs : List UInt8) :
    (∃ c rest, b :: bs = String.utf8EncodeChar c ++ rest) ∨
      ∃ fs rest, bs = fs ++ rest ∧ Broken (b :: fs) rest ∧ first b bs = (replacement, rest) := by
  by_cases hb : b < 0x80
  · exact .inl ⟨_, bs, by rw [encodeChar_ascii hb]; rfl⟩
  cases hlead : lead? b with
  | none =>
    refine .inr ⟨[], bs, rfl, broken_of_not_begins ?_ bs, by rw [first, if_neg hb, hlead]⟩
    rintro ⟨c, more, hc⟩
    rcases exists_of_encodeChar hc.symm with ⟨hascii, -⟩ | ⟨_, _, _, _, hsome, -⟩
    · exact hb hascii
    · simp [hlead] at hsome
  | some s =>
    obtain ⟨share, count, lo, hi⟩ := s
    rw [first, if_neg hb, hlead]
    rcases complete_cases count share lo hi bs with ⟨fs, rest, rfl, h⟩ | ⟨fs, rest, rfl, h, heq⟩
    · exact .inl ⟨_, rest, by rw [encodeChar_value hlead h]; rfl⟩
    · exact .inr ⟨fs, rest, rfl, broken_of_stuck hlead h, heq⟩

/-! ## All characters -/

/-- Bytes are decoded to a text that they stand for. -/
theorem decoded_decode (bs : List UInt8) : Decoded bs (decode bs) := by
  induction bs using decode.induct with
  | case1 => rw [decode]; exact .nil
  | case2 b bs ih =>
    rw [decode]
    rcases first_cases b bs with ⟨c, rest, hc⟩ | ⟨fs, rest, rfl, hbroken, hfirst⟩
    · obtain ⟨g, gs, hgs⟩ := List.exists_cons_of_ne_nil (encodeChar_ne_nil c)
      obtain ⟨rfl, rfl⟩ : b = g ∧ bs = gs ++ rest := by simpa [hgs] using hc
      rw [first_encodeChar hgs] at ih ⊢
      rw [hc]
      exact ih.char c
    · rw [hfirst] at ih ⊢
      exact ih.broken hbroken

theorem decode_encodeChar (c : Char) (bs : List UInt8) :
    decode (String.utf8EncodeChar c ++ bs) = c :: decode bs := by
  obtain ⟨g, gs, hgs⟩ := List.exists_cons_of_ne_nil (encodeChar_ne_nil c)
  rw [hgs, List.cons_append, decode, first_encodeChar hgs]

/-- Only one part can be replaced. -/
theorem Broken.unique {part' bs' : List UInt8} (h : Broken part bs) (h' : Broken part' bs')
    (heq : part ++ bs = part' ++ bs') : part = part' ∧ bs = bs' := by
  have hle := h.longest part' (heq ▸ List.prefix_append _ _) h'.replaceable
  have hge := h'.longest part (heq ▸ List.prefix_append _ _) h.replaceable
  exact List.append_inj heq (Nat.le_antisymm hge hle)

theorem decode_broken (h : Broken part bs) : decode (part ++ bs) = replacement :: decode bs := by
  obtain ⟨b, fs, rfl⟩ := List.exists_cons_of_ne_nil h.ne_nil
  rw [List.cons_append, decode]
  rcases first_cases b (fs ++ bs) with ⟨c, rest, hc⟩ | ⟨fs', rest, heq, hbroken, hfirst⟩
  · exact absurd ⟨rest, hc.symm⟩ (h.none c)
  · obtain ⟨-, rfl⟩ := h.unique hbroken (by rw [List.cons_append, heq, List.cons_append])
    rw [hfirst]

/-- **The text that bytes stand for** is the one that they are decoded to. -/
theorem decoded_iff : Decoded bs cs ↔ cs = decode bs := by
  refine ⟨fun h => ?_, fun h => h ▸ decoded_decode bs⟩
  induction h with
  | nil => rw [decode]
  | char c _ ih => rw [decode_encodeChar, ih]
  | broken hpart _ ih => rw [decode_broken hpart, ih]

/-- The bytes of a text stand for it. -/
theorem decode_encode (s : String) : decode (encode s) = s.toList := by
  unfold encode
  induction s.toList with
  | nil => rw [List.flatMap_nil, decode]
  | cons c cs ih => rw [List.flatMap_cons, decode_encodeChar, ih]

/-! ## ASCII bytes -/

theorem not_mem_low (hb : b < 0x80) (n count : Nat) : b ∉ low n count := by
  have hlt : b.toNat < 128 := hb
  induction count with
  | zero => exact List.not_mem_nil
  | succ count ih =>
    rw [low, List.mem_cons]
    rintro (rfl | hmem)
    · rw [UInt8.toNat_ofNat'] at hlt
      omega
    · exact ih hmem

/-- An ASCII byte of a character is all of it. -/
theorem eq_of_ascii_mem {c : Char} (hb : b < 0x80) (h : b ∈ String.utf8EncodeChar c) :
    String.utf8EncodeChar c = [b] := by
  have hlt : b.toNat < 128 := hb
  obtain ⟨more, hmore, hbytes⟩ := exists_encodeChar_eq c
  rw [hbytes] at h ⊢
  rcases List.mem_cons.mp h with rfl | hlow
  · rw [UInt8.toNat_ofNat', Nat.mod_eq_of_lt (lead_lt hmore)] at hlt
    have hmark : mark more < 128 := (Nat.le_add_left _ _).trans_lt hlt
    rcases hmore with ⟨rfl, -⟩ | ⟨rfl, -⟩ | ⟨rfl, -⟩ | ⟨rfl, -⟩
    · rfl
    all_goals exact absurd hmark (by decide)
  · exact absurd hlow (not_mem_low hb _ _)

/-- What is replaceable ends before an ASCII byte, unless it starts with it. -/
theorem Replaceable.of_ascii {more : List UInt8} (h : Replaceable part) (hb : b < 0x80)
    (hne : bs ≠ []) (hpart : part <+: bs ++ b :: more) : part <+: bs := by
  rcases Nat.lt_or_ge bs.length part.length with hlt | hge
  · have hpast : bs ++ [b] <+: part :=
      List.prefix_of_prefix_length_le ⟨more, by simp⟩ hpart (by rwa [List.length_append])
    have hpos : 0 < bs.length := List.length_pos_iff.mpr hne
    have hlong : part.length ≠ 1 := by omega
    rcases h with ⟨c, hc⟩ | hone
    · have hwhole := eq_of_ascii_mem hb (hc.subset (hpast.subset (by simp)))
      have hshort := hc.length_le
      rw [hwhole, List.length_singleton] at hshort
      omega
    · exact absurd hone hlong
  · exact List.prefix_of_prefix_length_le hpart (List.prefix_append _ _) hge

/-- What is replaced before an ASCII byte does not depend on what comes from there. -/
theorem Broken.append_ascii (h : Broken part bs) (hb : b < 0x80) (more : List UInt8) :
    Broken part (bs ++ b :: more) := by
  have within : ∀ other, Replaceable other → other <+: part ++ (bs ++ b :: more) →
      other <+: part ++ bs := fun other hrep hother =>
    hrep.of_ascii hb (by simp [h.ne_nil]) (by rwa [List.append_assoc])
  refine ⟨h.ne_nil, fun c hc => ?_, h.replaceable, fun other hother hrep => ?_⟩
  · exact h.none c (within _ (.inl ⟨c, List.prefix_refl _⟩) hc)
  · exact h.longest other (within other hrep hother) hrep

theorem Decoded.append_ascii (h : Decoded bs cs) (hb : b < 0x80) (more : List UInt8) :
    Decoded (bs ++ b :: more) (cs ++ Char.ofNat b.toNat :: decode more) := by
  induction h with
  | nil => simpa [encodeChar_ascii hb] using (decoded_decode more).char (Char.ofNat b.toNat)
  | char c _ ih =>
    rw [List.append_assoc]
    exact ih.char c
  | broken hpart _ ih =>
    rw [List.append_assoc]
    exact ih.broken (hpart.append_ascii hb more)

/-- **What is on both sides of an ASCII byte** may be decoded apart. -/
theorem decode_append_ascii (hb : b < 0x80) (bs more : List UInt8) :
    decode (bs ++ b :: more) = decode bs ++ Char.ofNat b.toNat :: decode more :=
  (decoded_iff.mp ((decoded_decode bs).append_ascii hb more)).symm

/-- Bytes stand for an ASCII character only if it is among them. -/
theorem not_mem_decode (hb : b < 0x80) (h : b ∉ bs) : Char.ofNat b.toNat ∉ decode bs := by
  have hlt : b.toNat < 128 := hb
  have hreplacement : Char.ofNat b.toNat ≠ replacement := by
    intro heq
    have hnat := congrArg Char.toNat heq
    rw [toNat_ofNat (by omega)] at hnat
    exact absurd (hnat ▸ hlt : replacement.toNat < 128) (by decide)
  have hdecoded := decoded_decode bs
  generalize decode bs = cs at hdecoded
  induction hdecoded with
  | nil => exact List.not_mem_nil
  | char c _ ih =>
    obtain ⟨hc, hbs⟩ := not_or.mp (mt List.mem_append.mpr h)
    rw [List.mem_cons]
    rintro (rfl | hmem)
    · exact hc (by rw [encodeChar_ascii hb]; exact List.mem_singleton_self _)
    · exact ih hbs hmem
  | broken _ _ ih =>
    obtain ⟨-, hbs⟩ := not_or.mp (mt List.mem_append.mpr h)
    rw [List.mem_cons]
    rintro (heq | hmem)
    · exact hreplacement heq
    · exact ih hbs hmem

end NodeBootstrap.Utf8
