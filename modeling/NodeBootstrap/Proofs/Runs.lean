import NodeBootstrap.Proofs.WrittenLines

/-!
# Runs of characters

A text is written and read in runs of blanks, of ends of lines, and of other characters.

* `Scalar.adjacent_run`: no character that may not stand behind a run does;
* `Scalar.indented_unbroken`, `Scalar.indented_breaks`: a run of a text whose lines are moved in.
-/

namespace NodeBootstrap

namespace Scalar

/-! ## Characters that stand next to each other -/

section Adjacent

variable {p q : Char → Bool} {c : Char} {cs : List Char}

theorem adjacent_of_left (h : ∀ c ∈ cs, p c = false) : adjacent p q cs = false := by
  induction cs with
  | nil => rfl
  | cons c cs ih =>
    obtain ⟨hc, hcs⟩ := List.forall_mem_cons.mp h
    rcases cs with _ | ⟨d, cs⟩
    · rfl
    · rw [adjacent, hc, ih hcs]
      rfl

theorem adjacent_tail (h : adjacent p q (c :: cs) = false) : adjacent p q cs = false := by
  rcases cs with _ | ⟨d, cs⟩
  · rfl
  · exact (Bool.or_eq_false_iff.mp h).2

theorem adjacent_suffix {front : List Char} (h : adjacent p q (front ++ cs) = false) :
    adjacent p q cs = false := by
  induction front with
  | nil => exact h
  | cons d front ih => exact ih (adjacent_tail h)

/-- What may not stand behind a character of a kind does not stand behind a run of them. -/
theorem adjacent_run {run : List Char} (h : adjacent p q (run ++ c :: cs) = false) (hne : run ≠ [])
    (hrun : ∀ d ∈ run, p d = true) : q c = false := by
  induction run with
  | nil => exact absurd rfl hne
  | cons d run ih =>
    obtain ⟨hd, hrest⟩ := List.forall_mem_cons.mp hrun
    rcases run with _ | ⟨e, run⟩
    · have hpair := (Bool.or_eq_false_iff.mp h).1
      simpa [hd] using hpair
    · exact ih (adjacent_tail h) (List.cons_ne_nil e run) hrest

end Adjacent

/-! ## Lines that are moved in -/

section Indented

variable {n : Nat} {c : Char}

theorem indented_unbroken {run : List Char} (h : Chars.Unbroken run) (cs : List Char) :
    indented n false (run ++ cs) = run ++ indented n false cs := by
  induction run with
  | nil => rfl
  | cons c run ih =>
    obtain ⟨hc, hrun⟩ := List.forall_mem_cons.mp h
    simp [indented, hc, ih hrun]

theorem indented_breaks {run : List Char} (hne : run ≠ []) (h : ∀ c ∈ run, isBreak c = true)
    (fresh : Bool) (cs : List Char) :
    indented n fresh (run ++ cs) = run ++ indented n true cs := by
  induction run generalizing fresh with
  | nil => exact absurd rfl hne
  | cons c run ih =>
    obtain ⟨hc, hrun⟩ := List.forall_mem_cons.mp h
    rcases run with _ | ⟨d, run⟩
    · simp [indented, hc]
    · have hrest := ih (List.cons_ne_nil d run) hrun true
      rw [List.cons_append, indented, if_pos hc, hrest]
      rfl

theorem indented_fresh (h : isBreak c = false) (cs : List Char) :
    indented n true (c :: cs) = spaces n ++ indented n false (c :: cs) := by
  simp [indented, h]

theorem length_le_length_indented (n : Nat) (cs : List Char) (fresh : Bool) :
    cs.length ≤ (indented n fresh cs).length := by
  induction cs generalizing fresh with
  | nil => exact Nat.zero_le _
  | cons c cs ih =>
    rw [indented]
    split
    · simpa using ih true
    · have hrest := ih false
      simp only [List.length_append, List.length_cons]
      omega

end Indented

end Scalar

end NodeBootstrap
