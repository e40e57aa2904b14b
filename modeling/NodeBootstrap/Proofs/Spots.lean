import NodeBootstrap.Proofs.Runs
import NodeBootstrap.Yaml.Read

/-!
# Places in a written document

A part of a written document ends its line, and a line follows it that begins with a key or with an
item, no further in than the part.

* `isSolid`: a character that is neither a blank, nor the end of a line, nor the start of a comment;
* `StartsPart`, `Follows`, `Tail`: what follows a part;
* `Spot.next_spaces`, `Follows.next_next`: the place where it begins;
* `Follows.skip_eq`: where the ends of lines and the blanks before it end.
-/

namespace NodeBootstrap

open Scalar Yaml

/-! ## Characters that stand for themselves -/

/-- A character that is neither a blank, nor the end of a line, nor the start of a comment. -/
def isSolid (c : Char) : Bool := !isGap c && !isBreak c && c != '#'

section Solid

variable {c : Char}

theorem isGap_of_isSolid (h : isSolid c = true) : isGap c = false := by
  simp only [isSolid, Bool.and_eq_true, Bool.not_eq_true'] at h
  exact h.1.1

theorem isBreak_of_isSolid (h : isSolid c = true) : isBreak c = false := by
  simp only [isSolid, Bool.and_eq_true, Bool.not_eq_true'] at h
  exact h.1.2

theorem ne_hash_of_isSolid (h : isSolid c = true) : c ≠ '#' := by
  rintro rfl
  exact absurd h (by decide)

theorem ne_space_of_isSolid (h : isSolid c = true) : c ≠ ' ' := by
  rintro rfl
  exact absurd h (by decide)

theorem ne_tab_of_isSolid (h : isSolid c = true) : c ≠ '\t' := by
  rintro rfl
  exact absurd h (by decide)

theorem isGap_of_isSpace (h : isSpace c = true) : isGap c = true := by
  rw [isGap, show (c == ' ') = true from h]
  rfl

theorem isSolid_of_isNameChar (h : ReadFlow.isNameChar c = true) : isSolid c = true :=
  (ascii_of_isNameChar h).forall_of_decide
    (P := fun c => ReadFlow.isNameChar c = true → isSolid c = true) (by decide) h

theorem isSolid_of_isLetter (h : isLetter c = true) : isSolid c = true :=
  isSolid_of_isNameChar (isNameChar_of_isLetter h)

end Solid

/-! ## What follows a part -/

/-- A text that begins with a key. -/
def StartsKey (cs : List Char) : Prop := ∃ c r, cs = c :: r ∧ isLetter c = true

/-- A text that begins with the sign of an item. -/
def StartsItem (cs : List Char) : Prop := ∃ r, cs = '-' :: ' ' :: r

/-- A text that begins with a key or with the sign of an item. -/
def StartsPart (cs : List Char) : Prop := StartsKey cs ∨ StartsItem cs

/-- What follows a part: nothing more, or a line that begins before column `limit`. -/
inductive Follows (limit : Nat) : List Char → Prop
  | nothing : Follows limit []
  | line {m : Nat} {cs : List Char} (hm : m < limit) (h : StartsPart cs) :
      Follows limit (spaces m ++ cs)

/-- What follows the value of a field in column `n`: besides, a further field in this column. -/
def Tail (n : Nat) (t : List Char) : Prop :=
  Follows n t ∨ ∃ cs, StartsKey cs ∧ t = spaces n ++ cs

theorem Follows.mono {m n : Nat} (hmn : m ≤ n) {t : List Char} (h : Follows m t) : Follows n t := by
  cases h with
  | nothing => exact .nothing
  | line hm h => exact .line (by omega) h

theorem Tail.follows {n : Nat} {t : List Char} (h : Tail n t) : Follows (n + 1) t := by
  rcases h with h | ⟨cs, hcs, rfl⟩
  · exact h.mono (by omega)
  · exact .line (by omega) (Or.inl hcs)

namespace StartsPart

variable {cs : List Char}

theorem exists_isSolid (h : StartsPart cs) : ∃ c r, cs = c :: r ∧ isSolid c = true := by
  rcases h with ⟨c, r, rfl, hc⟩ | ⟨r, rfl⟩
  · exact ⟨c, r, rfl, isSolid_of_isLetter hc⟩
  · exact ⟨'-', ' ' :: r, rfl, by decide⟩

theorem startsMark_of_ne {mark c : Char} {r : List Char} (h : c ≠ mark) :
    Spot.startsMark mark (c :: r) = false := by
  rcases r with _ | ⟨d, _ | ⟨e, r⟩⟩
  · rfl
  · rfl
  · simp [Spot.startsMark, h]

theorem startsAnyMark (h : StartsPart cs) : Spot.startsAnyMark cs = false := by
  rcases h with ⟨c, r, rfl, hc⟩ | ⟨r, rfl⟩
  · have hne {mark : Char} (hmark : isLetter mark = false) : c ≠ mark := by
      rintro rfl
      exact absurd hc (by simp [hmark])
    rw [Spot.startsAnyMark, startsMark_of_ne (hne (by decide)), startsMark_of_ne (hne (by decide))]
    rfl
  · rw [Spot.startsAnyMark, startsMark_of_ne (show '-' ≠ '.' by decide)]
    cases r <;> rfl

/-- A part begins where it stands, so the document does not end there. -/
theorem isEnd (h : StartsPart cs) (m : Nat) : (Spot.mk m cs).isEnd = false := by
  obtain ⟨c, r, rfl, -⟩ := h.exists_isSolid
  simp [Spot.isEnd, Spot.isMark, h.startsAnyMark]

end StartsPart

/-! ## The place where a part begins -/

namespace Spot

variable {c : Char} {cs : List Char}

theorem next_spaces (h : isSolid c = true) (k m : Nat) (r : List Char) :
    next k (spaces m ++ c :: r) = ⟨k + m, c :: r⟩ := by
  induction m generalizing k with
  | zero =>
    simp [next, spaces, nextFrom, isBreak_of_isSolid h, ne_space_of_isSolid h, ne_hash_of_isSolid h]
  | succ m ih =>
    have hspace : next k (' ' :: (spaces m ++ c :: r)) = next (k + 1) (spaces m ++ c :: r) := by
      simp [next, nextFrom, isBreak]
    rw [spaces, List.replicate_succ, List.cons_append]
    rw [spaces] at hspace ih
    rw [hspace, ih]
    congr 1
    omega

theorem next_break (h : isBreak c = true) (k : Nat) : next k (c :: cs) = next 0 cs := by
  simp [next, nextFrom, h]

end Spot

theorem StartsPart.next_spaces {cs : List Char} (h : StartsPart cs) (k m : Nat) :
    Spot.next k (spaces m ++ cs) = ⟨k + m, cs⟩ := by
  obtain ⟨c, r, rfl, hc⟩ := h.exists_isSolid
  exact Spot.next_spaces hc k m r

theorem restOfLine_break {c : Char} (h : isBreak c = true) (cs : List Char) :
    restOfLine (c :: cs) = some (Spot.next 0 cs) := by
  have hgap : isGap c = false := by
    rw [Bool.eq_false_iff]
    intro hgap
    simp only [isGap, Bool.or_eq_true, beq_iff_eq] at hgap
    rcases hgap with rfl | rfl
    · exact absurd h (by decide)
    · exact absurd h (by decide)
  simp [restOfLine, hgap, h, Spot.next_break h]

theorem restOfLine_of_isSolid {c : Char} (h : isSolid c = true) (cs : List Char) :
    restOfLine (c :: cs) = none := by
  simp [restOfLine, isGap_of_isSolid h, isBreak_of_isSolid h, ne_hash_of_isSolid h]

/-! ## Ends of lines before a part -/

/-- The ends of lines that stand in a document as they are. -/
def IsFeed (c : Char) : Prop := c = '\n' ∨ IsSeparator c

theorem IsFeed.isBreak {c : Char} (h : IsFeed c) : isBreak c = true := by
  rcases h with rfl | rfl | rfl
  · decide
  · decide
  · decide

namespace Lines

variable {least : Nat}

/-- Ends of lines are kept as they are. -/
theorem skip_feeds {feeds : List Char} (h : ∀ c ∈ feeds, IsFeed c) (hne : feeds ≠ [])
    (k : Nat) (cs : List Char) :
    skip least k (feeds ++ cs) = (skip least 0 cs).map fun (bs, s) => (feeds ++ bs, s) := by
  induction feeds generalizing k with
  | nil => exact absurd rfl hne
  | cons c feeds ih =>
    obtain ⟨hc, hfeeds⟩ := List.forall_mem_cons.mp h
    have hone (ds : List Char) : skip least k (c :: ds) =
        (skip least 0 ds).map fun (bs, s) => (c :: bs, s) := by
      rcases hc with rfl | rfl | rfl
      · simp [skip, NodeBootstrap.isBreak]
      · simp [skip, NodeBootstrap.isBreak]
      · simp [skip, NodeBootstrap.isBreak]
    rw [List.cons_append, hone]
    rcases feeds with _ | ⟨d, feeds⟩
    · rfl
    · rw [ih hfeeds (List.cons_ne_nil d feeds), Option.map_map]
      rfl

theorem skip_spaces {c : Char} (hgap : isGap c = false) (hbreak : NodeBootstrap.isBreak c = false)
    (k m : Nat) (r : List Char) :
    skip least k (spaces m ++ c :: r) = some ([], ⟨k + m, c :: r⟩) := by
  have hspace : c ≠ ' ' := by rintro rfl; exact absurd hgap (by decide)
  have htab : c ≠ '\t' := by rintro rfl; exact absurd hgap (by decide)
  have hreturn : c ≠ '\r' := by rintro rfl; exact absurd hbreak (by decide)
  induction m generalizing k with
  | zero => simp [skip, spaces, hspace, htab, hreturn, hbreak]
  | succ m ih =>
    have hone : skip least k (' ' :: (spaces m ++ c :: r)) =
        skip least (k + 1) (spaces m ++ c :: r) := by
      simp [skip]
    rw [spaces, List.replicate_succ, List.cons_append]
    rw [spaces] at hone ih
    rw [hone, ih]
    congr 3
    omega

end Lines

section Follows

variable {limit : Nat} {t : List Char}

/-- Before what follows a part there is no end of a line. -/
theorem Follows.skip_eq (h : Follows limit t) (least : Nat) :
    Lines.skip least 0 t = some ([], Spot.next 0 t) := by
  cases h with
  | nothing => rfl
  | @line m cs hm hstart =>
    obtain ⟨c, r, rfl, hc⟩ := hstart.exists_isSolid
    rw [Lines.skip_spaces (isGap_of_isSolid hc) (isBreak_of_isSolid hc), Spot.next_spaces hc]

/-- The place where what follows begins is the same from there on. -/
theorem Follows.next_next (h : Follows limit t) :
    Spot.next (Spot.next 0 t).column (Spot.next 0 t).rest = Spot.next 0 t := by
  cases h with
  | nothing => rfl
  | @line m cs hm hstart =>
    rw [hstart.next_spaces]
    exact hstart.next_spaces (0 + m) 0

/-- What follows begins before the limit, or nothing does. -/
theorem Follows.before (h : Follows limit t) :
    (Spot.next 0 t).isEnd = true ∨ (Spot.next 0 t).column < limit := by
  cases h with
  | nothing => exact Or.inl rfl
  | @line m cs hm hstart =>
    rw [hstart.next_spaces]
    exact Or.inr (by simpa using hm)

end Follows

end NodeBootstrap
