import NodeBootstrap.Proofs.Cutting
import NodeBootstrap.Taint

/-!
# The texts of taints

* `Taint.Form`: the three forms of a taint;
* `Taint.written`: a taint in full;
* `Taint.parse_eq_ok_iff`, `Taint.parse_eq_error_of_not_form`: the texts that are read are those
  that have one of the forms, and the other texts are refused by name;
* `Taint.Form.written`, `Taint.Form.eq_or_eq`: the full form is read as the same taint, and the only
  other text that is leaves the empty value out;
* **`Taint.parse_exact`**: reading takes the three forms, and loses no more than that.
-/

namespace NodeBootstrap

namespace Taint

/-- The texts that ask for a taint: in full, without a value, and for its removal. A sign that
separates two parts is the first of its kind. -/
inductive Form (spec : String) : Taint → Prop
  | full {key value effect : String} (hspec : spec = key ++ "=" ++ value ++ ":" ++ effect)
      (hequals : '=' ∉ key.toList) (hcolon : ':' ∉ value.toList) (hkey : key ≠ "")
      (heffect : effect ≠ "") : Form spec ⟨key, value, effect⟩
  | short {key effect : String} (hspec : spec = key ++ ":" ++ effect)
      (hequals : '=' ∉ spec.toList) (hcolon : ':' ∉ key.toList) (hkey : key ≠ "")
      (heffect : effect ≠ "") : Form spec ⟨key, "", effect⟩
  | removal (hequals : '=' ∉ spec.toList) (hcolon : ':' ∉ spec.toList)
      (hsize : 2 ≤ spec.utf8ByteSize) (hlast : spec.toList.getLast? = some '-') :
      Form spec ⟨"", "", spec⟩

/-- A taint in full, or the text that asks for a removal. -/
def written (t : Taint) : String :=
  if t.key = "" then t.effect else t.key ++ "=" ++ t.value ++ ":" ++ t.effect

section Forms

variable {spec : String} {t : Taint}

/-- A text that ends in `-` has two bytes when it has another character. -/
theorem two_le_utf8ByteSize_iff (hlast : spec.toList.getLast? = some '-') :
    2 ≤ spec.utf8ByteSize ↔ 1 < spec.toList.length := by
  obtain ⟨front, hfront⟩ := List.getLast?_eq_some_iff.mp hlast
  obtain rfl : spec = String.ofList front ++ "-" := String.toList_inj.mp (by simp [hfront])
  have hminus : "-".utf8ByteSize = 1 := rfl
  have hempty : (String.ofList front).utf8ByteSize = 0 ↔ front.length = 0 := by
    simp [String.utf8ByteSize_eq_zero_iff]
  rw [String.utf8ByteSize_append, String.toList_append, List.length_append, String.toList_ofList,
    hminus]
  simp only [show "-".toList.length = 1 from rfl]
  omega

theorem Form.parse?_eq (h : Form spec t) : parse? spec.toList = some t := by
  cases h with
  | @full key value effect hspec hequals hcolon hkey heffect =>
    have hchars : spec.toList = key.toList ++ '=' :: (value.toList ++ ':' :: effect.toList) := by
      simp [hspec]
    rw [parse?, hchars, Chars.cut_append hequals]
    simp [Chars.cut_append hcolon, hkey, heffect]
  | @short key effect hspec hequals hcolon hkey heffect =>
    have hchars : spec.toList = key.toList ++ ':' :: effect.toList := by simp [hspec]
    rw [parse?, Chars.cut_of_not_mem hequals, hchars, Chars.cut_append hcolon]
    simp [hkey, heffect]
  | removal hequals hcolon hsize hlast =>
    rw [parse?, Chars.cut_of_not_mem hequals, Chars.cut_of_not_mem hcolon]
    simp [hlast, (two_le_utf8ByteSize_iff hlast).mp hsize]

theorem form_of_parse? (h : parse? spec.toList = some t) : Form spec t := by
  rw [parse?] at h
  rcases hequals : Chars.cut '=' spec.toList with _ | ⟨key, rest⟩
  · have hspec := Chars.cut_eq_none_iff.mp hequals
    rcases hcolon : Chars.cut ':' spec.toList with _ | ⟨key, effect⟩
    · simp only [hequals, hcolon, Option.ite_none_right_eq_some, Option.some.injEq,
        String.ofList_toList] at h
      obtain ⟨⟨hlength, hlast⟩, rfl⟩ := h
      exact .removal hspec (Chars.cut_eq_none_iff.mp hcolon)
        ((two_le_utf8ByteSize_iff hlast).mpr hlength) hlast
    · simp only [hequals, hcolon, Option.ite_none_left_eq_some, not_or, Option.some.injEq] at h
      obtain ⟨⟨hkey, heffect⟩, rfl⟩ := h
      obtain ⟨hchars, hnone⟩ := Chars.cut_eq_some_iff.mp hcolon
      refine .short (String.toList_inj.mp ?_) hspec ?_ ?_ ?_
      · simp [hchars]
      · simpa using hnone
      · simpa using hkey
      · simpa using heffect
  · obtain ⟨hchars, hnone⟩ := Chars.cut_eq_some_iff.mp hequals
    rcases hcolon : Chars.cut ':' rest with _ | ⟨value, effect⟩
    · simp only [hequals, hcolon] at h
      cases h
    · simp only [hequals, hcolon, Option.ite_none_left_eq_some, not_or, Option.some.injEq] at h
      obtain ⟨⟨hkey, heffect⟩, rfl⟩ := h
      obtain ⟨hrest, hvalue⟩ := Chars.cut_eq_some_iff.mp hcolon
      refine .full (String.toList_inj.mp ?_) ?_ ?_ ?_ ?_
      · simp [hchars, hrest]
      · simpa using hnone
      · simpa using hvalue
      · simpa using hkey
      · simpa using heffect

/-- The texts that are read are those that have one of the forms. -/
theorem parse_eq_ok_iff : parse spec = .ok t ↔ Form spec t := by
  have hparse? : parse spec = .ok t ↔ parse? spec.toList = some t := by
    unfold parse
    rcases parse? spec.toList with _ | t'
    · simp
    · simp
  exact hparse?.trans ⟨form_of_parse?, Form.parse?_eq⟩

/-- Other texts are refused by name. -/
theorem parse_eq_error_of_not_form (h : ∀ t, ¬Form spec t) :
    parse spec = .error (.invalidTaint spec) := by
  have hnone : parse? spec.toList = none :=
    Option.eq_none_iff_forall_ne_some.mpr fun t ht => h t (form_of_parse? ht)
  rw [parse, hnone]

/-- Every taint has an effect. -/
theorem Form.effect_ne_empty (h : Form spec t) : t.effect ≠ "" := by
  cases h with
  | full _ _ _ _ heffect => exact heffect
  | short _ _ _ _ heffect => exact heffect
  | removal _ _ hsize =>
    rintro rfl
    exact absurd hsize (by decide)

/-- The full form of what is read is a form of it as well. -/
theorem Form.written (h : Form spec t) : Form t.written t := by
  cases h with
  | @full key value effect hspec hequals hcolon hkey heffect =>
    rw [Taint.written, if_neg hkey]
    exact .full rfl hequals hcolon hkey heffect
  | @short key effect hspec hequals hcolon hkey heffect =>
    have hkeyEquals : '=' ∉ key.toList := by
      intro hmem
      exact hequals (by simp [hspec, hmem])
    rw [Taint.written, if_neg hkey]
    exact .full rfl hkeyEquals (by simp) hkey heffect
  | removal hequals hcolon hsize hlast => exact .removal hequals hcolon hsize hlast

/-- A taint is asked for in full, or without the value when that is empty. -/
theorem Form.eq_or_eq (h : Form spec t) :
    spec = t.written ∨ t.key ≠ "" ∧ t.value = "" ∧ spec = t.key ++ ":" ++ t.effect := by
  cases h with
  | full hspec _ _ hkey =>
    rw [Taint.written, if_neg hkey]
    exact Or.inl hspec
  | short hspec _ _ hkey => exact Or.inr ⟨hkey, rfl, hspec⟩
  | removal => exact Or.inl rfl

/-- The two texts of a taint without a value. -/
theorem written_eq {key effect : String} (hkey : key ≠ "") :
    written ⟨key, "", effect⟩ = key ++ "=:" ++ effect := by
  rw [written, if_neg hkey, ← String.toList_inj]
  simp

/-- Two texts for one taint are the full form and the one that leaves the empty value out. -/
theorem Form.two_spellings {other : String} (h : Form spec t) (hother : Form other t)
    (hne : spec ≠ other) : ∃ key effect, t = ⟨key, "", effect⟩ ∧
      (spec = key ++ "=:" ++ effect ∧ other = key ++ ":" ++ effect ∨
        spec = key ++ ":" ++ effect ∧ other = key ++ "=:" ++ effect) := by
  obtain ⟨key, value, effect⟩ := t
  rcases h.eq_or_eq with hspec | ⟨hkey, hvalue, hspec⟩
  · rcases hother.eq_or_eq with hother | ⟨hkey, hvalue, hother⟩
    · exact absurd (hspec.trans hother.symm) hne
    · obtain rfl : value = "" := hvalue
      exact ⟨key, effect, rfl, Or.inl ⟨hspec.trans (written_eq hkey), hother⟩⟩
  · obtain rfl : value = "" := hvalue
    rcases hother.eq_or_eq with hother | ⟨-, -, hother⟩
    · exact ⟨key, effect, rfl, Or.inr ⟨hspec, hother.trans (written_eq hkey)⟩⟩
    · exact absurd (hspec.trans hother.symm) hne

end Forms

/-- **A text is read as a taint if and only if it has one of the three forms, and is refused by name
otherwise. The taint gives the text back in full, or without a value that is empty: no other two
texts are read as the same taint.** -/
theorem parse_exact (spec : String) :
    (∀ t, parse spec = .ok t ↔ Form spec t) ∧
      ((∀ t, ¬Form spec t) → parse spec = .error (.invalidTaint spec)) ∧
      (∀ t, parse spec = .ok t → parse t.written = .ok t ∧ (spec = t.written ∨
        t.key ≠ "" ∧ t.value = "" ∧ spec = t.key ++ ":" ++ t.effect)) ∧
      (∀ other t, parse spec = .ok t → parse other = .ok t → spec ≠ other →
        ∃ key effect, t = ⟨key, "", effect⟩ ∧
          (spec = key ++ "=:" ++ effect ∧ other = key ++ ":" ++ effect ∨
            spec = key ++ ":" ++ effect ∧ other = key ++ "=:" ++ effect)) := by
  refine ⟨fun t => parse_eq_ok_iff, parse_eq_error_of_not_form, fun t h => ?_,
    fun other t h hother hne => ?_⟩
  · have hform := parse_eq_ok_iff.mp h
    exact ⟨parse_eq_ok_iff.mpr hform.written, hform.eq_or_eq⟩
  · exact (parse_eq_ok_iff.mp h).two_spellings (parse_eq_ok_iff.mp hother) hne

/-- The two spellings do come: a value that is empty may be left out, also where the effect has a
colon. -/
theorem parse_exact_of_empty_value :
    parse "gpu=:NoSchedule:a" = .ok ⟨"gpu", "", "NoSchedule:a"⟩ ∧
      parse "gpu:NoSchedule:a" = .ok ⟨"gpu", "", "NoSchedule:a"⟩ ∧
      ∃ key effect, (⟨"gpu", "", "NoSchedule:a"⟩ : Taint) = ⟨key, "", effect⟩ ∧
        ("gpu=:NoSchedule:a" = key ++ "=:" ++ effect ∧ "gpu:NoSchedule:a" = key ++ ":" ++ effect ∨
          "gpu=:NoSchedule:a" = key ++ ":" ++ effect ∧
            "gpu:NoSchedule:a" = key ++ "=:" ++ effect) := by
  have hfull : parse "gpu=:NoSchedule:a" = .ok ⟨"gpu", "", "NoSchedule:a"⟩ := rfl
  have hshort : parse "gpu:NoSchedule:a" = .ok ⟨"gpu", "", "NoSchedule:a"⟩ := rfl
  exact ⟨hfull, hshort, (parse_exact "gpu=:NoSchedule:a").2.2.2 _ _ hfull hshort (by decide)⟩

end Taint

end NodeBootstrap
