import NodeBootstrap.Proofs.TidyDocuments
import NodeBootstrap.Proofs.WrittenLines

/-!
# Documents stand apart

The documents of a configuration are the sections of its text: no setting can add a document, take
one away or change where one ends.

* `Rendering.StandApart`: documents that are the sections of a text;
* `Rendering.standApart_assemble_iff`: glued documents stand apart exactly when all but the last
  end their last lines;
* **`Rendering.documents_stand_apart`**: they do where every character that ends a line of a
  document ends one; where only a line feed does, they do as long as no listed text ends with a
  separator of lines or paragraphs;
* `Rendering.documents_run_together`: a listed text that ends with one, where only a line feed ends
  a line.
-/

namespace NodeBootstrap.Rendering

open Yaml

/-- The line feed. -/
def isLineFeed (c : Char) : Bool := c == '\n'

/-- The documents, each written alone, are the sections of the text. -/
def StandApart (isEnd : Char → Bool) (text : String) (documents : List Yaml) : Prop :=
  Chars.sections isEnd text.toList = documents.map write

variable {p : Parameters} {documents : List Yaml} {ends : Char → Prop} {isEnd : Char → Bool}

theorem isBreak_of_isLineFeed {c : Char} (h : isLineFeed c = true) : isBreak c = true := by
  obtain rfl : c = '\n' := by simpa [isLineFeed] using h
  decide

theorem write_ne_nil {y : Yaml} (h : y.IsTidyRecord ends) : write y ≠ [] := by
  obtain ⟨⟨k, v⟩, fs, rfl, -⟩ := h
  simp [write, writeFields, writeField]

/-- The text of documents: a line of three dashes between each two. -/
theorem toList_assemble (documents : List Yaml) : (assemble documents).toList =
    "---\n".toList.intercalate (documents.map write) := by
  rw [assemble, String.toList_ofList, Chars.glue_eq_intercalate]
  rfl

section Glued

variable (hfeed : isEnd '\n' = true) (hend : ∀ c, isEnd c = true → isBreak c = true)
include hfeed hend

/-- Glued documents stand apart exactly when all but the last end their last lines. -/
theorem standApart_assemble_iff (hne : documents ≠ [])
    (h : ∀ y ∈ documents, y.IsTidyRecord ends) :
    StandApart isEnd (assemble documents) documents ↔
      ∀ y ∈ documents.dropLast, Chars.Ended isEnd (write y) := by
  have hdash : isEnd '-' = false := by
    rw [Bool.eq_false_iff]
    exact fun h => absurd (hend '-' h) (by decide)
  have hunruled : ∀ t ∈ documents.map write, Chars.Unruled isEnd t := fun t ht => by
    obtain ⟨y, hy, rfl⟩ := List.mem_map.mp ht
    obtain ⟨f, fs, rfl, htidy⟩ := h y hy
    exact unruled_write hend htidy
  have hfull : ∀ t ∈ documents.map write, t ≠ [] := fun t ht => by
    obtain ⟨y, hy, rfl⟩ := List.mem_map.mp ht
    exact write_ne_nil (h y hy)
  rw [StandApart, assemble, String.toList_ofList,
    Chars.sections_glue_iff hfeed hdash (by simpa using hne) hunruled hfull, ← List.map_dropLast,
    List.forall_mem_map]

theorem standApart_assemble (hne : documents ≠ [])
    (h : ∀ y ∈ documents, y.IsTidyRecord (Ends isEnd)) :
    StandApart isEnd (assemble documents) documents :=
  (standApart_assemble_iff hfeed hend hne h).mpr fun y hy => by
    obtain ⟨f, fs, rfl, htidy⟩ := h y (List.dropLast_subset _ hy)
    exact ended_write hfeed htidy

end Glued

/-- None of the listed texts ends with a separator of lines or paragraphs. -/
def ListsEnd (p : Parameters) : Prop :=
  ∀ t ∈ p.listed, Text.Closes (fun c => ¬Scalar.IsSeparator c) t

theorem ListsEnd.closing (h : ListsEnd p) : Closing p (Ends isLineFeed) where
  solid c hc hseparator := by
    rcases hseparator with rfl | rfl
    · exact absurd hc (by decide)
    · exact absurd hc (by decide)
  listed t ht c hlast hseparator := absurd hseparator (h t ht c hlast)

/-- Every separator ends a line of a document. -/
theorem closing_isBreak (p : Parameters) : Closing p (Ends isBreak) := by
  have hall : ∀ c, Ends isBreak c := fun c hseparator => by
    rcases hseparator with rfl | rfl
    · decide
    · decide
  exact ⟨fun c _ => hall c, fun _ _ c _ => hall c⟩

/-- Documents stand apart where any end of a line counts, and where only line feeds do as long as no
listed text ends with a separator. -/
def StandApartFor (p : Parameters) (text : String) (documents : List Yaml) : Prop :=
  StandApart isBreak text documents ∧ (ListsEnd p → StandApart isLineFeed text documents)

theorem standApartFor_assemble (hne : documents ≠ [])
    (h : ∀ ends, Closing p ends → ∀ y ∈ documents, y.IsTidyRecord ends) :
    StandApartFor p (assemble documents) documents :=
  ⟨standApart_assemble (by decide) (fun _ hc => hc) hne (h _ (closing_isBreak p)),
    fun hlists => standApart_assemble (by decide) (fun _ => isBreak_of_isLineFeed) hne
      (h _ hlists.closing)⟩

/-- The node agent has one document when something is said of it, and none otherwise. -/
theorem length_agentPart (p : Parameters) :
    p.kubelet.Given ∧ (agentPart p).length = 1 ∨ ¬p.kubelet.Given ∧ (agentPart p).length = 0 := by
  have hsome := KubeletDocument.isSome_of?_iff p
  unfold agentPart
  rcases hd : KubeletDocument.of? p with _ | d
  · rw [hd] at hsome
    exact Or.inr ⟨by simpa using hsome, rfl⟩
  · rw [hd] at hsome
    exact Or.inl ⟨hsome.mp rfl, rfl⟩

/-- **The documents of a configuration stand apart**: the sections of the text are the documents,
each as it is written alone. There are two for a first node and one for a further node, and one more
exactly when something is said of the node agent. -/
theorem documents_stand_apart (s : Selection) (p : Parameters) :
    (∀ r, init s p = .ok r → ∃ documents, initTrees s p = .ok documents ∧
      StandApartFor p r.text documents ∧
      (p.kubelet.Given ∧ documents.length = 3 ∨ ¬p.kubelet.Given ∧ documents.length = 2)) ∧
    ∀ r, join s p = .ok r → ∃ documents, joinTrees s p = .ok documents ∧
      StandApartFor p r.text documents ∧
      (p.kubelet.Given ∧ documents.length = 2 ∨ ¬p.kubelet.Given ∧ documents.length = 1) := by
  have hagent := length_agentPart p
  constructor
  · intro r hr
    obtain ⟨trees, htrees, rfl⟩ := Results.map_eq_ok_iff.mp hr
    have htidy (ends : Char → Prop) (h : Closing p ends) := tidy_initTrees h htrees
    have hdocuments := htrees
    rw [initTrees_eq] at hdocuments
    obtain ⟨first, -, hdocuments⟩ := Results.bind_eq_ok_iff.mp hdocuments
    obtain ⟨cluster, -, rfl⟩ := Results.map_eq_ok_iff.mp hdocuments
    refine ⟨_, htrees, standApartFor_assemble (by simp) htidy, ?_⟩
    rcases hagent with ⟨hgiven, hlength⟩ | ⟨hgiven, hlength⟩
    · simp [hgiven, hlength]
    · simp [hgiven, hlength]
  · intro r hr
    obtain ⟨trees, htrees, rfl⟩ := Results.map_eq_ok_iff.mp hr
    have htidy (ends : Char → Prop) (h : Closing p ends) := tidy_joinTrees h htrees
    have hdocuments := htrees
    rw [joinTrees_eq] at hdocuments
    obtain ⟨further, -, rfl⟩ := Results.map_eq_ok_iff.mp hdocuments
    refine ⟨_, htrees, standApartFor_assemble (by simp) htidy, ?_⟩
    rcases hagent with ⟨hgiven, hlength⟩ | ⟨hgiven, hlength⟩
    · simp [hgiven, hlength]
    · simp [hgiven, hlength]

/-- Alternative names and hashes that hold lines of dashes and look like further documents. -/
theorem documents_stand_apart_of_dashes :
    let s : Selection := ⟨⟨1, 16, 0⟩, .v1beta2, false⟩
    let p : Parameters :=
      { advertiseAddress := "10.0.0.10"
        certSans := ["a\n---\nkind: ClusterConfiguration\n", "---"]
        kubelet := { cgroupDriver := some "systemd" }
        join := { apiServerEndpoint := some "10.0.0.1"
                  token := some "abcdef.0123456789abcdef"
                  caCertHashes := ["a\n---\n"] } }
    (∃ r documents, init s p = .ok r ∧ StandApart isLineFeed r.text documents ∧
      documents.length = 3) ∧
    ∃ r documents, join s p = .ok r ∧ StandApart isLineFeed r.text documents ∧
      documents.length = 2 := by
  intro s p
  have hlists : ListsEnd p := by
    have hlast : ∀ t ∈ p.listed, t.toList.getLast? = some '\n' ∨ t.toList.getLast? = some '-' := by
      decide
    intro t ht c hc
    rcases hlast t ht with h | h
    · obtain rfl := Option.some.inj (h.symm.trans hc)
      exact by unfold Scalar.IsSeparator; decide
    · obtain rfl := Option.some.inj (h.symm.trans hc)
      exact by unfold Scalar.IsSeparator; decide
  have hgiven : p.kubelet.Given := ⟨"systemd", Or.inr (Or.inr rfl), by decide⟩
  obtain ⟨hinit, hjoin⟩ := documents_stand_apart s p
  obtain ⟨r, hr⟩ : ∃ r, init s p = .ok r := Results.exists_eq_ok_iff.mpr (by decide +kernel)
  obtain ⟨r', hr'⟩ : ∃ r', join s p = .ok r' := Results.exists_eq_ok_iff.mpr (by decide +kernel)
  obtain ⟨documents, -, ⟨-, hapart⟩, hlength⟩ := hinit r hr
  obtain ⟨documents', -, ⟨-, hapart'⟩, hlength'⟩ := hjoin r' hr'
  refine ⟨⟨r, documents, hr, hapart hlists, ?_⟩, r', documents', hr', hapart' hlists, ?_⟩
  · simpa [hgiven] using hlength
  · simpa [hgiven] using hlength'

/-- An alternative name that ends with a separator: the line of dashes after it is glued to that
name, and where only line feeds end lines the sections are not the documents. -/
theorem documents_run_together :
    let s : Selection := ⟨⟨1, 16, 0⟩, .v1beta2, false⟩
    let p : Parameters :=
      { advertiseAddress := "10.0.0.5"
        certSans := ["a\nb\u2028"]
        kubelet := { cgroupDriver := some "systemd" } }
    ∃ r documents, init s p = .ok r ∧ initTrees s p = .ok documents ∧ documents.length = 3 ∧
      ¬StandApart isLineFeed r.text documents := by
  intro s p
  have hends : (initTrees s p).map (fun ys => (ys.length,
      ys.dropLast.map fun y => (write y).getLast?)) = .ok (3, [some '\n', some '\u2028']) := by
    decide +kernel
  obtain ⟨documents, htrees, hlast⟩ := Results.map_eq_ok_iff.mp hends
  obtain ⟨hlength, hlast⟩ := Prod.mk.inj hlast
  have hinit : init s p = .ok ⟨s.generation, assemble documents⟩ := by
    rw [init, htrees]
    rfl
  have htidy := tidy_initTrees (Closing.trivial p) htrees
  have hne : documents ≠ [] := List.ne_nil_of_length_pos (by omega)
  refine ⟨_, documents, hinit, htrees, hlength, fun hapart => ?_⟩
  have hended := (standApart_assemble_iff (by decide) (fun _ => isBreak_of_isLineFeed) hne htidy).mp
    hapart
  have hseparator : some '\u2028' ∈ documents.dropLast.map fun y => (write y).getLast? := by
    rw [hlast]
    decide
  obtain ⟨y, hy, heq⟩ := List.mem_map.mp hseparator
  have hfeed := hended y hy
  rw [Chars.Ended, heq] at hfeed
  exact absurd hfeed (by decide)

end NodeBootstrap.Rendering
