import NodeBootstrap.Proofs.VersionGrammar

/-!
# Written versions

A version is read back from its three numbers with dots between them, with the letter in front or
not, whatever identifiers follow and whatever blanks are around.

* `Decimal.numeral_digits`: a number is written without a leading zero;
* `Version.text_eq`, `Version.tag_eq`: what is written of a version;
* `Version.spelled_text`, `Version.spelled_tag`: what is written is a text of the version;
* `Version.parse_of_spelled`: a text of a version is read with blanks around it;
* `Version.parse_tag`: a written version is read back;
* **`Version.read_grammar`**: the texts that are read as versions, and as which.
-/

namespace NodeBootstrap

/-! ## Numbers -/

namespace Decimal

theorem head?_digits {n : Nat} (h : 0 < n) : (digits n).head? ≠ some '0' := by
  induction n using digits.induct with
  | case1 n hn =>
    have hall : ∀ n < 10, 0 < n → digitChar n ≠ '0' := by decide
    rw [digits, if_pos hn]
    simpa using hall n hn h
  | case2 n hn ih =>
    rw [digits, if_neg hn, List.head?_append_of_ne_nil _ (digits_ne_nil _)]
    exact ih (by omega)

/-- A number is written without a leading zero. -/
theorem numeral_digits (n : Nat) : Numeral (digits n) n where
  ne_nil := digits_ne_nil n
  isDigit _ hc := isDigit_of_mem_digits hc
  noZero hhead := by
    rcases Nat.eq_zero_or_pos n with rfl | hn
    · rw [digits, if_pos (by decide)]
      rfl
    · exact absurd hhead (head?_digits hn)
  value_eq := value_digits n

end Decimal

namespace Version

variable {v : Version} {cs : List Char} {part : VersionPart}

/-! ## Its numbers -/

theorem text_eq (v : Version) :
    v.text = toString v.major ++ "." ++ toString v.minor ++ "." ++ toString v.patch := by
  have hnumber (n : UInt64) : toString n = String.ofList (Decimal.digits n.toNat) := by
    rw [Decimal.digits_eq_toDigits]
    rfl
  rw [← String.toList_inj]
  simp [text, chars, hnumber]

theorem tag_eq (v : Version) : v.tag = "v" ++ v.text := by
  rw [← String.toList_inj]
  simp [tag, text]

/-! ## Blanks -/

theorem not_isBlank_of_isIdentifierChar {c : Char} (h : isIdentifierChar c = true) :
    isBlank c = false := by
  have hascii : Ascii c := by
    simp only [isIdentifierChar, Bool.or_eq_true, Bool.and_eq_true, decide_eq_true_eq,
      beq_iff_eq] at h
    rcases h with ((h | h) | h) | rfl
    · exact .of_le h.2 (show '9'.toNat < 128 by decide)
    · exact .of_le h.2 (show 'Z'.toNat < 128 by decide)
    · exact .of_le h.2 (show 'z'.toNat < 128 by decide)
    · exact show '-'.toNat < 128 by decide
  exact hascii.forall_of_decide (P := fun c => isIdentifierChar c = true → isBlank c = false)
    (by decide) h

theorem not_isBlank_of_marked {mark : Char} (hmark : isBlank mark = false)
    (h : Marked mark part cs) : ∀ c ∈ cs, isBlank c = false := by
  rcases h with rfl | ⟨_, rfl, ids, -, rfl, hids⟩
  · simp
  · refine List.forall_mem_cons.mpr ⟨hmark, fun c hc => ?_⟩
    rcases Chars.mem_glue hc with rfl | ⟨id, hid, hmem⟩
    · decide
    · exact not_isBlank_of_isIdentifierChar ((hids id hid).isChar c hmem)

theorem not_isBlank_of_numeral {n : Nat} (h : Decimal.Numeral cs n) :
    ∀ c ∈ cs, isBlank c = false := fun c hc => Decimal.not_isBlank_of_isDigit (h.isDigit c hc)

/-- There are no blanks in a text of a version. -/
theorem not_isBlank_of_spelled (h : Spelled cs v) : ∀ c ∈ cs, isBlank c = false := by
  obtain ⟨letter, _, rfl, hletter, major, minor, patch, _, rfl, hmajor, hminor, hpatch, pre, build,
    rfl, hpre, hbuild⟩ := h
  have hdot : isBlank '.' = false := by decide
  simp only [List.forall_mem_append, List.forall_mem_cons]
  refine ⟨?_, not_isBlank_of_numeral hmajor, hdot, not_isBlank_of_numeral hminor, hdot,
    not_isBlank_of_numeral hpatch, not_isBlank_of_marked (by decide) hpre,
    not_isBlank_of_marked (by decide) hbuild⟩
  rcases hletter with rfl | rfl
  · simp
  · simp [isBlank]

/-! ## Reading back -/

/-- A text of a version is read with blanks around it. -/
theorem parse_of_spelled {t s : String} (h : Spelled t.toList v) (hs : Text.Around t s) :
    parse s = .ok v := by
  rw [parse_eq_ok_iff, hs.trim_eq, Text.trim, Chars.trim_eq_self (not_isBlank_of_spelled h),
    String.ofList_toList]
  exact h

theorem suffix_nil : Suffix [] := ⟨[], [], rfl, Or.inl rfl, Or.inl rfl⟩

theorem numbered_chars (v : Version) {suffix : List Char} (h : Suffix suffix) :
    Numbered (v.chars ++ suffix) v :=
  ⟨_, _, _, suffix, by simp [chars], Decimal.numeral_digits _, Decimal.numeral_digits _,
    Decimal.numeral_digits _, h⟩

theorem spelled_text (v : Version) (suffix : String) (h : Suffix suffix.toList) :
    Spelled (v.text ++ suffix).toList v :=
  ⟨[], _, by simp [text], Or.inl rfl, numbered_chars v h⟩

theorem spelled_tag (v : Version) (suffix : String) (h : Suffix suffix.toList) :
    Spelled (v.tag ++ suffix).toList v :=
  ⟨['v'], _, by simp [tag], Or.inr rfl, numbered_chars v h⟩

/-- A version behind the letter is read back. -/
theorem parse_tag (v : Version) : parse v.tag = .ok v :=
  parse_of_spelled (by simpa using spelled_tag v "" suffix_nil) (.refl _)

theorem read_eq_ok_iff {s : String} : read s = .ok v ↔ parse s = .ok v :=
  Results.mapError_eq_ok_iff

/-- **A text is read as a version exactly when, without the blanks around it, it is a text of that
version, and every other text is refused by its name. So a version is read back from its numbers,
with the letter in front or not, whatever may follow them and with blanks around.** -/
theorem read_grammar :
    (∀ (s : String) (v : Version), read s = .ok v ↔ Spelled (Text.trim s).toList v) ∧
    (∀ s : String, (∃ fault, read s = .error (.malformedVersion s fault)) ↔
      ∀ v, ¬Spelled (Text.trim s).toList v) ∧
    ∀ v : Version, read v.text = .ok v ∧ read v.tag = .ok v ∧
      ∀ suffix s : String, Suffix suffix.toList →
        Text.Around (v.text ++ suffix) s ∨ Text.Around (v.tag ++ suffix) s → read s = .ok v := by
  have hgrammar (s : String) (v : Version) : read s = .ok v ↔ Spelled (Text.trim s).toList v :=
    read_eq_ok_iff.trans parse_eq_ok_iff
  refine ⟨hgrammar, fun s => ?_, fun v => ⟨?_, read_eq_ok_iff.mpr (parse_tag v), ?_⟩⟩
  · simp only [← hgrammar]
    unfold read
    rcases parse s with fault | v
    · exact iff_of_true ⟨fault, rfl⟩ fun v h => nomatch h
    · exact iff_of_false (fun ⟨_, h⟩ => nomatch h) fun h => h v rfl
  · exact read_eq_ok_iff.mpr
      (parse_of_spelled (by simpa using spelled_text v "" suffix_nil) (.refl _))
  · rintro suffix s hsuffix (hs | hs)
    · exact read_eq_ok_iff.mpr (parse_of_spelled (spelled_text v suffix hsuffix) hs)
    · exact read_eq_ok_iff.mpr (parse_of_spelled (spelled_tag v suffix hsuffix) hs)

/-- A version with identifiers behind it and blanks around it, and a text with a letter too many. -/
theorem read_grammar_of_suffix :
    read " v1.17.0-rc.1+build.07\n" = .ok ⟨1, 17, 0⟩ ∧
      (∃ fault, read "vv1.17.0" = .error (.malformedVersion "vv1.17.0" fault)) ∧
      ∀ v, ¬Spelled "vv1.17.0".toList v := by
  obtain ⟨-, hrefused, hback⟩ := read_grammar
  have hsuffix : Suffix "-rc.1+build.07".toList :=
    (afterNumbers_eq_ok_iff.mp (show afterNumbers ⟨1, 17, 0⟩ _ = .ok ⟨1, 17, 0⟩ by decide)).1
  have haround : Text.Around (tag ⟨1, 17, 0⟩ ++ "-rc.1+build.07") " v1.17.0-rc.1+build.07\n" :=
    ⟨" ", "\n", by decide, by decide, by decide +kernel⟩
  have hfault : ∃ fault, read "vv1.17.0" = .error (.malformedVersion "vv1.17.0" fault) :=
    ⟨_, rfl⟩
  have htrim : Text.trim "vv1.17.0" = "vv1.17.0" := by decide
  have hnone := (hrefused "vv1.17.0").mp hfault
  rw [htrim] at hnone
  exact ⟨(hback ⟨1, 17, 0⟩).2.2 _ _ hsuffix (Or.inr haround), hfault, hnone⟩

end Version

end NodeBootstrap
