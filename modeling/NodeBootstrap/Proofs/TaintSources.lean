import NodeBootstrap.Parameters.Sources
import NodeBootstrap.Proofs.CommaLists
import NodeBootstrap.Proofs.OverrideTexts

/-!
# Where taints come from

An operator gives taints as a list in a file, as an override, or by a flag of their own. A file has
one text for each taint; the override and the flag have one text with commas for all of them.

* `Taint.Reading`: what texts come to as taints, one after the other;
* `Taint.reading_parseAll`, `Taint.Reading.parseAll_eq`, `Taint.reading_parseList`: the reading of
  trimmed texts, and of the parts of a text with commas;
* `Taint.ofData_taints`, `Sources.override_taints`, `Sources.taint_flag`: what each source makes of
  it;
* **`Taint.sources_agree`**: the three sources come to the same taints or all fail.
-/

namespace NodeBootstrap

open Text

namespace Taint

/-- What texts come to, each without the blanks around it: the taints in their order, or the failure
of the first text that is no taint. -/
inductive Reading : List String → Except Failure (List Taint) → Prop
  | taints {specs : List String} {ts : List Taint}
      (h : List.Forall₂ (fun spec t => parse (trim spec) = .ok t) specs ts) : Reading specs (.ok ts)
  | invalid {front back : List String} {bad : String}
      (hfront : ∀ spec ∈ front, IsTaint (trim spec)) (hbad : ¬IsTaint (trim bad)) :
      Reading (front ++ bad :: back) (.error (.invalidTaint (trim bad)))

theorem reading_parseAll (specs : List String) : Reading specs (parseAll (specs.map trim)) := by
  induction specs with
  | nil => exact .taints .nil
  | cons spec specs ih =>
    rw [List.map_cons, parseAll]
    rcases hspec : parse (trim spec) with e | t
    · obtain ⟨hbad, rfl⟩ := parse_eq_error_iff.mp hspec
      exact .invalid (List.forall_mem_nil _) hbad
    · generalize parseAll (specs.map trim) = r at ih ⊢
      cases ih with
      | taints h => exact .taints (.cons hspec h)
      | invalid hfront hbad =>
        exact .invalid (List.forall_mem_cons.mpr ⟨⟨t, hspec⟩, hfront⟩) hbad

/-- Texts come to one thing only. -/
theorem Reading.parseAll_eq {specs : List String} {r : Except Failure (List Taint)}
    (h : Reading specs r) : parseAll (specs.map trim) = r := by
  cases h with
  | taints h =>
    induction h with
    | nil => rfl
    | cons hspec _ ih =>
      rw [List.map_cons, parseAll, hspec, ih]
      rfl
  | @invalid front back bad hfront hbad =>
    refine parseAll_eq_error_iff.mpr ⟨front.map trim, trim bad, back.map trim, ?_, ?_, hbad, rfl⟩
    · rw [List.map_append, List.map_cons]
    · exact List.forall_mem_map.mpr hfront

/-- Blank parts are left out; the others are read in their order. -/
theorem reading_parseList (input : String) :
    Reading ((pieces ',' input).filter fun part => !blank part) (parseList input) := by
  rw [parseList, listed_eq]
  exact reading_parseAll _

/-! ## The three sources -/

theorem asListOf_ofData (specs : List String) : Data.asListOf ofData (.list (specs.map .text)) =
    (parseAll (specs.map trim)).mapError fun _ => .mistyped := by
  rw [Data.asListOf]
  induction specs with
  | nil => rfl
  | cons spec specs ih =>
    rw [List.map_cons, List.mapM_cons, ih, List.map_cons, parseAll, ofData, parseTrimmed]
    rcases parse (trim spec) with e | t
    · rfl
    · rcases parseAll (specs.map trim) with e | ts <;> rfl

/-- A file with the taints only. -/
theorem ofData_taints (extra : Bool) (specs : List String) :
    Parameters.ofData extra (.record [("taints", .list (specs.map .text))]) =
      ((parseAll (specs.map trim)).mapError fun _ => .mistyped).map fun ts => { taints := ts } := by
  have htake : Parameters.ofData extra (.record [("taints", .list (specs.map .text))]) =
      (Data.asListOf ofData (.list (specs.map .text))).map fun ts => { taints := ts } := by
    change ((Data.asListOf ofData (.list (specs.map .text))).map _ >>= fun p => .ok p) = _
    rcases Data.asListOf ofData (.list (specs.map .text)) with e | ts <;> rfl
  rw [htake, asListOf_ofData]

end Taint

namespace Sources

open Overrides

theorem entry_taints (text : String) :
    entry ("node.taints=" ++ text) = .ok ("node.taints", trim text) := by
  have hchars : ("node.taints=" ++ text).toList = "node.taints".toList ++ '=' :: text.toList := by
    simp
  have hcut : cut '=' ("node.taints=" ++ text) = some ("node.taints", text) := by
    rw [cut, hchars, Chars.cut_append (by decide), Option.map_some]
    simp only [String.ofList_toList]
  have htrim : trim "node.taints" = "node.taints" := by decide
  simp [entry, hcut, htrim]

theorem parseList_trim (text : String) :
    Taint.parseList (trim text) = Taint.parseList text := by
  rw [Taint.parseList, listed_trim, Taint.parseList]

theorem step_taints (text : String) (p : Parameters) : step p "node.taints" (trim text) =
    (Taint.parseList text).map fun ts => { p with taints := ts } := by
  have hkey : Property.ofKey? "node.taints" = some .taints :=
    Property.ofKey?_eq_some_iff.mpr rfl
  have hdecode (key value : String) :
      Property.taints.kind.decode key value = Taint.parseList value := rfl
  rw [step, hkey]
  simp only [hdecode, trim_trim, parseList_trim]
  rfl

/-- An override for the taints, on top of any parameters. -/
theorem override_taints (text : String) (p : Parameters) :
    ({ overrides := ["node.taints=" ++ text] } : Sources).override p =
      ((Taint.parseList text).mapError .failed).map fun ts => { p with taints := ts } := by
  have hmap : ofTexts ["node.taints=" ++ text] = .ok [("node.taints", trim text)] := by
    rw [ofTexts, addTexts, entry_taints]
    rfl
  have hrun : apply [("node.taints", trim text)] p = run p [("node.taints", trim text)] := by
    rw [apply, sorted, List.mergeSort_singleton]
  rw [override, hmap]
  simp only [Except.mapError, bind, Except.bind, hrun, run, step_taints]
  rcases Taint.parseList text with e | ts <;> rfl

/-- The flag for the taints, on top of any parameters. -/
theorem taint_flag (text : String) (p : Parameters) :
    ({ taints := some text } : Sources).taint p =
      ((Taint.parseList text).mapError .failed).map fun ts => { p with taints := ts } :=
  rfl

end Sources

/-- **The sources of taints agree**: specs that are not blank and have no commas come to the same
taints, or all fail, as a list in a file, and with any blanks around them and commas between them as
an override and by the flag; the last two name the first spec that is invalid. Any text is read
by its parts that are not blank, in their order. -/
theorem Taint.sources_agree {specs parts : List String} (hspecs : ∀ spec ∈ specs, Listable spec)
    (hparts : List.Forall₂ Around specs parts) (extra : Bool) (p : Parameters) :
    (∃ r, Reading specs r ∧
      Parameters.ofData extra (.record [("taints", .list (specs.map .text))]) =
        (r.mapError fun _ => .mistyped).map (fun ts => { taints := ts }) ∧
      ({ overrides := ["node.taints=" ++ glue "," parts] } : Sources).override p =
        (r.mapError .failed).map (fun ts => { p with taints := ts }) ∧
      ({ taints := some (glue "," parts) } : Sources).taint p =
        (r.mapError .failed).map (fun ts => { p with taints := ts })) ∧
      ∀ input, Reading ((pieces ',' input).filter fun part => !blank part) (parseList input) := by
  refine ⟨⟨parseAll (specs.map trim), reading_parseAll specs, ofData_taints extra specs, ?_, ?_⟩,
    reading_parseList⟩
  · rw [Sources.override_taints, parseList, listed_glue_around hspecs hparts]
  · rw [Sources.taint_flag, parseList, listed_glue_around hspecs hparts]

/-- A text that is no taint makes all three fail, behind a taint and before another text that is
none. -/
theorem Taint.sources_agree_of_invalid :
    (∀ spec ∈ ["gpu=yes:NoSchedule", "xxx", "-"], Listable spec) ∧
      List.Forall₂ Around ["gpu=yes:NoSchedule", "xxx", "-"]
        ["gpu=yes:NoSchedule ", "\txxx", " - "] ∧
      Parameters.ofData true
        (.record [("taints", .list [.text "gpu=yes:NoSchedule", .text "xxx", .text "-"])]) =
          .error .mistyped ∧
      ({ overrides := ["node.taints=gpu=yes:NoSchedule ,\txxx, - "] } : Sources).override {} =
        .error (.failed (.invalidTaint "xxx")) ∧
      ({ taints := some "gpu=yes:NoSchedule ,\txxx, - " } : Sources).taint {} =
        .error (.failed (.invalidTaint "xxx")) := by
  have hspecs : ∀ spec ∈ ["gpu=yes:NoSchedule", "xxx", "-"], Listable spec := by
    unfold Listable
    decide
  have hparts : List.Forall₂ Around ["gpu=yes:NoSchedule", "xxx", "-"]
      ["gpu=yes:NoSchedule ", "\txxx", " - "] :=
    .cons ⟨"", " ", rfl, rfl, rfl⟩ (.cons ⟨"\t", "", rfl, rfl, rfl⟩
      (.cons ⟨" ", " ", rfl, rfl, rfl⟩ .nil))
  obtain ⟨⟨r, hr, hdata, hoverride, hflag⟩, -⟩ := sources_agree hspecs hparts true {}
  obtain rfl : .error (.invalidTaint "xxx") = r := hr.parseAll_eq
  exact ⟨hspecs, hparts, hdata, hoverride, hflag⟩

end NodeBootstrap
