import NodeBootstrap.Document.Basic
import NodeBootstrap.Parameters.Basic
import NodeBootstrap.Proofs.Blanks
import NodeBootstrap.Proofs.Names
import NodeBootstrap.Yaml.Basic
import NodeBootstrap.Yaml.ReadFlow

/-!
# Tidy trees

A tree is tidy when its keys are words that stand as they are. What closes it is the last character
of the text in its last place.

* `Yaml.induction`: what holds of a list or a record when it holds of what is in it holds of all
  trees;
* `Yaml.isKey`, `Text.Closes`: words that stand as they are, and what a text may end with;
* `Yaml.Tidy`, `Yaml.TidyFields`: trees and fields whose keys are such words and whose last text
  ends as demanded;
* `Yaml.AllTidy`: fields of which any may be the last;
* `Closing`: demands on last characters that the settings of a configuration meet.
-/

namespace NodeBootstrap

open Text

/-- The last character of the text, if it has one, is as demanded. -/
def Text.Closes (ends : Char → Prop) (s : String) : Prop :=
  ∀ c, s.toList.getLast? = some c → ends c

namespace Yaml

/-- What holds of a list or a record when it holds of what is in it, holds of all trees. -/
@[elab_as_elim]
theorem induction {P : Yaml → Prop} (text : ∀ s, P (.text s)) (number : ∀ n, P (.number n))
    (flag : ∀ b, P (.flag b)) (list : ∀ ys : List Yaml, (∀ y ∈ ys, P y) → P (.list ys))
    (record : ∀ fs : List (String × Yaml), (∀ f ∈ fs, P f.2) → P (.record fs)) (y : Yaml) : P y :=
  Yaml.rec (motive_1 := P) (motive_2 := fun ys => ∀ y ∈ ys, P y)
    (motive_3 := fun fs => ∀ f ∈ fs, P f.2) (motive_4 := fun f => P f.2)
    text number flag list record (by simp) (fun _ _ hy hys => List.forall_mem_cons.mpr ⟨hy, hys⟩)
    (by simp) (fun _ _ hf hfs => List.forall_mem_cons.mpr ⟨hf, hfs⟩) (fun _ _ hy => hy) y

/-- A letter. -/
def isLetter (c : Char) : Bool := ('a' ≤ c && c ≤ 'z') || ('A' ≤ c && c ≤ 'Z')

/-- A word of letters, digits and dashes that begins with a letter and is not too long for a key. -/
def isKey (k : String) : Bool :=
  match k.toList with
  | c :: cs => isLetter c && cs.all ReadFlow.isNameChar && cs.length < 1000
  | [] => false

/-! ## Tidy trees -/

mutual

/-- A tree whose keys are words that stand as they are and whose last text ends as demanded. -/
def Tidy (ends : Char → Prop) : Yaml → Prop
  | text s => Closes ends s
  | number _ => True
  | flag _ => True
  | list ys => TidyItems ends ys
  | record fs => TidyFields ends fs
termination_by structural y => y

/-- Items that are tidy, the last of them ending as demanded. -/
def TidyItems (ends : Char → Prop) : List Yaml → Prop
  | [] => True
  | y :: ys => y.Tidy (fun c => ys = [] → ends c) ∧ TidyItems ends ys
termination_by structural ys => ys

/-- Fields that are tidy, the last of them ending as demanded. -/
def TidyFields (ends : Char → Prop) : List (String × Yaml) → Prop
  | [] => True
  | f :: fs => TidyField (fun c => fs = [] → ends c) f ∧ TidyFields ends fs
termination_by structural fs => fs

/-- A field that is tidy and ends as demanded. -/
def TidyField (ends : Char → Prop) : String × Yaml → Prop
  | (k, y) => isKey k = true ∧ y.Tidy ends
termination_by structural f => f

end

section Tidy

variable {ends ends' : Char → Prop}

theorem tidyField_iff {f : String × Yaml} :
    TidyField ends f ↔ isKey f.1 = true ∧ f.2.Tidy ends := by
  rcases f with ⟨k, y⟩
  exact Iff.rfl

theorem Tidy.mono {y : Yaml} (hends : ∀ c, ends c → ends' c) (h : y.Tidy ends) :
    y.Tidy ends' := by
  induction y using Yaml.induction generalizing ends ends' with
  | text s => exact fun c hc => hends c (h c hc)
  | number n => trivial
  | flag b => trivial
  | list ys ih =>
    change TidyItems ends ys at h
    change TidyItems ends' ys
    induction ys with
    | nil => trivial
    | cons y ys ihys =>
      obtain ⟨hy, hys⟩ := List.forall_mem_cons.mp ih
      exact ⟨hy (fun c hc hnil => hends c (hc hnil)) h.1, ihys hys h.2⟩
  | record fs ih =>
    change TidyFields ends fs at h
    change TidyFields ends' fs
    induction fs with
    | nil => trivial
    | cons f fs ihfs =>
      obtain ⟨hf, hfs⟩ := List.forall_mem_cons.mp ih
      obtain ⟨hkey, hvalue⟩ := tidyField_iff.mp h.1
      exact ⟨tidyField_iff.mpr ⟨hkey, hf (fun c hc hnil => hends c (hc hnil)) hvalue⟩,
        ihfs hfs h.2⟩

/-- Every item of tidy items is tidy, whatever it ends with. -/
theorem TidyItems.of_mem {ys : List Yaml} (h : TidyItems ends ys) {y : Yaml} (hy : y ∈ ys) :
    y.Tidy fun _ => True := by
  induction ys with
  | nil => simp at hy
  | cons z ys ih =>
    rcases List.mem_cons.mp hy with rfl | hy
    · exact h.1.mono fun _ _ => True.intro
    · exact ih h.2 hy

/-- Every field of tidy fields is tidy, whatever it ends with. -/
theorem TidyFields.of_mem {fs : List (String × Yaml)} (h : TidyFields ends fs) {f : String × Yaml}
    (hf : f ∈ fs) : isKey f.1 = true ∧ f.2.Tidy fun _ => True := by
  induction fs with
  | nil => simp at hf
  | cons g fs ih =>
    rcases List.mem_cons.mp hf with rfl | hf
    · obtain ⟨hkey, hvalue⟩ := tidyField_iff.mp h.1
      exact ⟨hkey, hvalue.mono fun _ _ => True.intro⟩
    · exact ih h.2 hf

/-- The last of tidy items ends as demanded. -/
theorem TidyItems.getLast {ys : List Yaml} (h : TidyItems ends ys) (hne : ys ≠ []) :
    (ys.getLast hne).Tidy ends := by
  induction ys with
  | nil => exact absurd rfl hne
  | cons y ys ih =>
    rcases ys with _ | ⟨z, ys⟩
    · exact h.1.mono fun c hc => hc rfl
    · exact ih h.2 (List.cons_ne_nil z ys)

/-- The last of tidy fields ends as demanded. -/
theorem TidyFields.getLast {fs : List (String × Yaml)} (h : TidyFields ends fs) (hne : fs ≠ []) :
    (fs.getLast hne).2.Tidy ends := by
  induction fs with
  | nil => exact absurd rfl hne
  | cons f fs ih =>
    rcases fs with _ | ⟨g, fs⟩
    · exact (tidyField_iff.mp h.1).2.mono fun c hc => hc rfl
    · exact ih h.2 (List.cons_ne_nil g fs)

theorem tidyItems_of_forall {ys : List Yaml} (h : ∀ y ∈ ys, y.Tidy ends) : TidyItems ends ys := by
  induction ys with
  | nil => trivial
  | cons y ys ih =>
    obtain ⟨hy, hys⟩ := List.forall_mem_cons.mp h
    exact ⟨hy.mono fun c hc _ => hc, ih hys⟩

theorem tidyFields_of_forall {fs : List (String × Yaml)} (h : ∀ f ∈ fs, TidyField ends f) :
    TidyFields ends fs := by
  induction fs with
  | nil => trivial
  | cons f fs ih =>
    obtain ⟨hf, hfs⟩ := List.forall_mem_cons.mp h
    obtain ⟨hkey, hvalue⟩ := tidyField_iff.mp hf
    exact ⟨tidyField_iff.mpr ⟨hkey, hvalue.mono fun c hc _ => hc⟩, ih hfs⟩

theorem tidy_list {ys : List Yaml} (h : ∀ y ∈ ys, y.Tidy ends) : (list ys).Tidy ends :=
  tidyItems_of_forall h

theorem tidy_record {fs : List (String × Yaml)} (h : ∀ f ∈ fs, TidyField ends f) :
    (record fs).Tidy ends := tidyFields_of_forall h

theorem tidy_texts {xs : List String} (h : ∀ x ∈ xs, Closes ends x) : (texts xs).Tidy ends :=
  tidy_list fun y hy => by
    obtain ⟨x, hx, rfl⟩ := List.mem_map.mp hy
    exact h x hx

/-- Arguments whose names are words that stand as they are and whose values end as demanded. -/
def TidyArguments (ends : Char → Prop) (m : List (String × String)) : Prop :=
  ∀ a ∈ m, isKey a.1 = true ∧ Closes ends a.2

namespace TidyArguments

variable {name value : String} {m m' : List (String × String)}

theorem none : TidyArguments ends [] := by simp [TidyArguments]

theorem cons (hname : isKey name = true) (hvalue : Closes ends value) (h : TidyArguments ends m) :
    TidyArguments ends ((name, value) :: m) := List.forall_mem_cons.mpr ⟨⟨hname, hvalue⟩, h⟩

theorem append (h : TidyArguments ends m) (h' : TidyArguments ends m') :
    TidyArguments ends (m ++ m') := List.forall_mem_append.mpr ⟨h, h'⟩

end TidyArguments

theorem tidy_table {m : Arguments} (h : TidyArguments ends m) : (table m).Tidy ends :=
  tidy_record fun f hf => by
    obtain ⟨a, ha, rfl⟩ := List.mem_map.mp hf
    exact h a ha

theorem tidy_text_any (s : String) : (text s).Tidy fun _ => True := fun _ _ => True.intro

/-! ## Fields that may be left out -/

variable {key : String} {fs fs' : List (String × Yaml)}

/-- All of the fields are tidy and end as demanded, so that any of them may be the last. -/
def AllTidy (ends : Char → Prop) (fs : List (String × Yaml)) : Prop := ∀ f ∈ fs, TidyField ends f

theorem AllTidy.append (h : AllTidy ends fs) (h' : AllTidy ends fs') :
    AllTidy ends (fs ++ fs') := List.forall_mem_append.mpr ⟨h, h'⟩

theorem allTidy_nil : AllTidy ends [] := by simp [AllTidy]

theorem allTidy_single {y : Yaml} (hkey : isKey key = true) (h : y.Tidy ends) :
    AllTidy ends [(key, y)] := List.forall_mem_singleton.mpr ⟨hkey, h⟩

theorem allTidy_flag (hkey : isKey key = true) (b : Bool) : AllTidy ends [(key, flag b)] :=
  allTidy_single hkey True.intro

/-- Of the fields of a record only the last need end as demanded. -/
theorem tidy_record_append (h : AllTidy (fun _ => True) fs) (h' : AllTidy ends fs')
    (hne : fs' ≠ []) : (record (fs ++ fs')).Tidy ends := by
  change TidyFields ends (fs ++ fs')
  induction fs with
  | nil => exact tidyFields_of_forall h'
  | cons f fs ih =>
    obtain ⟨hf, hfs⟩ := List.forall_mem_cons.mp h
    obtain ⟨hkey, hvalue⟩ := tidyField_iff.mp hf
    have hmore : fs ++ fs' ≠ [] := List.append_ne_nil_of_right_ne_nil fs hne
    exact ⟨tidyField_iff.mpr ⟨hkey, hvalue.mono fun _ _ hnil => absurd hnil hmore⟩, ih hfs⟩

theorem allTidy_optional {value : Option Yaml} (hkey : isKey key = true)
    (h : ∀ y, value = some y → y.Tidy ends) : AllTidy ends (optional key value) :=
  forall_mem_optional.mpr fun y hy => ⟨hkey, h y hy⟩

theorem allTidy_optionalText {value : Option String} (hkey : isKey key = true)
    (h : ∀ s, value = some s → Closes ends s) : AllTidy ends (optionalText key value) :=
  forall_mem_optionalText.mpr fun s hs => ⟨hkey, h s hs⟩

theorem allTidy_unlessEmpty {α : Type} {values : List α} {tree : List α → Yaml}
    (hkey : isKey key = true) (h : (tree values).Tidy ends) :
    AllTidy ends (unlessEmpty key values tree) :=
  forall_mem_unlessEmpty.mpr fun _ => ⟨hkey, h⟩

end Tidy

end Yaml

/-! ## What settings end with -/

/-- The texts that are taken as they are given, blanks around them included, and that may stand
last in a document. -/
def Parameters.listed (p : Parameters) : List String :=
  p.certSans ++ p.taints.map (·.effect) ++ p.apiServer.enableAdmissionPlugins ++
    p.apiServer.disableAdmissionPlugins ++ p.etcd.endpoints ++ p.join.caCertHashes

/-- A demand on last characters that the listed texts meet, and that every character but a blank
meets. -/
structure Closing (p : Parameters) (ends : Char → Prop) : Prop where
  solid : ∀ c, isBlank c = false → ends c
  listed : ∀ s ∈ p.listed, Closes ends s

namespace Closing

variable {p : Parameters} {ends : Char → Prop}

theorem trivial (p : Parameters) : Closing p fun _ => True :=
  ⟨fun _ _ => True.intro, fun _ _ _ _ => True.intro⟩

theorem of_getLast? (h : Closing p ends) {s : String} {c : Char}
    (hlast : s.toList.getLast? = some c) (hc : isBlank c = false) : Closes ends s := fun d hd => by
  obtain rfl := Option.some.inj (hlast.symm.trans hd)
  exact h.solid c hc

/-- A text that is known to the last character. -/
theorem closes_fixed (h : Closing p ends) {s : String}
    (hs : (s.toList.getLast?.map isBlank) = some false) : Closes ends s := by
  obtain ⟨c, hlast, hc⟩ := Option.map_eq_some_iff.mp hs
  exact h.of_getLast? hlast hc

theorem of_nonBlank (h : Closing p ends) {o : Option String} {s : String}
    (hs : nonBlank o = some s) : Closes ends s := fun c hc => by
  obtain ⟨hmap, -⟩ := Option.filter_eq_some_iff.mp hs
  obtain ⟨t, -, rfl⟩ := Option.map_eq_some_iff.mp hmap
  rw [trim, String.toList_ofList] at hc
  exact h.solid c (Chars.not_isBlank_of_getLast? hc)

/-- A text after another one ends as it does itself, unless it is empty. -/
theorem closes_append {s t : String} (ht : Closes ends t) (hne : t ≠ "") :
    Closes ends (s ++ t) := fun c hc => by
  rw [String.toList_append, List.getLast?_append] at hc
  rcases hlast : t.toList.getLast? with _ | d
  · rw [List.getLast?_eq_none_iff] at hlast
    exact absurd (String.toList_inj.mp hlast) hne
  · rw [hlast] at hc
    exact ht c (hlast.trans hc)

/-- Glued texts end as the last of them does, or with what glues them. -/
theorem closes_glue (h : Closing p ends) {values : List String}
    (hvalues : ∀ v ∈ values, Closes ends v) : Closes ends (glue "," values) := by
  induction values with
  | nil => exact fun c hc => by simp [glue, Chars.glue] at hc
  | cons v values ih =>
    obtain ⟨hv, hrest⟩ := List.forall_mem_cons.mp hvalues
    cases values with
    | nil => simpa [glue, Chars.glue] using hv
    | cons w values =>
      have heq : glue "," (v :: w :: values) = (v ++ ",") ++ glue "," (w :: values) := by
        rw [← String.toList_inj]
        simp [glue, Chars.glue]
      rw [heq]
      by_cases hempty : glue "," (w :: values) = ""
      · rw [hempty, String.append_empty]
        exact h.of_getLast? (c := ',') (by simp) (by decide)
      · exact closes_append (ih hrest) hempty

end Closing

end NodeBootstrap
