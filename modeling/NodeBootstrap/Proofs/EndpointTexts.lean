import NodeBootstrap.Proofs.Addresses
import NodeBootstrap.Proofs.Conformance
import NodeBootstrap.Proofs.Lookups

/-!
# Written endpoints

What is written of an endpoint splits into its host and port again when its host has no brackets
and no blanks. So do the addresses in rendered documents: they are written endpoints.

* `Endpoint.Plain`, `Endpoint.ReadAs`: hosts as they should be, and texts that split into an
  endpoint with any blanks around them;
* `Endpoint.Shape.Writes.readAs`: an address of a shape, with a plain host, is read as its shape
  says;
* `Endpoint.readAs_text`, `Endpoint.readAs_enclosed`, `Endpoint.readAs_host`: the three ways to
  write a host;
* `Endpoint.Restates`: a text is the written form of the endpoint that an address splits into;
* **`Rendering.endpoints_reread`**: the addresses in the documents of a configuration are read
  back.
-/

namespace NodeBootstrap

namespace Endpoint

/-! ## Reading back -/

/-- A host without blanks and without brackets. -/
structure Plain (host : String) : Prop where
  ne_empty : host ≠ ""
  not_isBlank : ∀ c ∈ host.toList, isBlank c = false
  noBracket : NoBracket host.toList

/-- A text splits into an endpoint, whatever blanks are around it. -/
def ReadAs (d : UInt16) (t : String) (e : Endpoint) : Prop :=
  ∀ s, Text.Around t s → split s d = .ok e

section Hosts

variable {d p : UInt16} {e : Endpoint} {host : String} {cs : List Char}

theorem not_isBlank_of_denotes {n : Nat} (h : Decimal.Denotes cs n) :
    ∀ c ∈ cs, isBlank c = false := fun c hc => by
  rcases h.isDigit_of_mem hc with rfl | hdigit
  · decide
  · exact Decimal.not_isBlank_of_isDigit hdigit

/-- An address of a shape has no blanks but those of its host. -/
theorem Shape.Writes.not_isBlank {s : Shape} (h : s.Writes d e cs)
    (hhost : ∀ c ∈ e.host.toList, isBlank c = false) : ∀ c ∈ cs, isBlank c = false := by
  have hcolon : isBlank ':' = false := by decide
  have hopening : isBlank '[' = false := by decide
  have hclosing : isBlank ']' = false := by decide
  cases s with
  | host =>
    obtain ⟨rfl, -⟩ := h
    exact hhost
  | hostPort =>
    obtain ⟨port, rfl, -, hport⟩ := h
    simp only [List.forall_mem_append, List.forall_mem_cons]
    exact ⟨hhost, hcolon, not_isBlank_of_denotes hport⟩
  | bracketed =>
    obtain ⟨rfl, -⟩ := h
    simp only [List.forall_mem_append, List.forall_mem_cons]
    exact ⟨hopening, hhost, hclosing, by simp⟩
  | bracketedPort =>
    obtain ⟨port, rfl, hport⟩ := h
    simp only [List.forall_mem_append, List.forall_mem_cons]
    exact ⟨hopening, hhost, hclosing, hcolon, not_isBlank_of_denotes hport⟩

/-- An address of a shape with a plain host is read as its shape says. -/
theorem Shape.Writes.readAs {s : Shape} {t : String} (h : s.Writes d e t.toList)
    (hhost : Plain e.host) : ReadAs d t e := fun u hu => by
  rw [split_eq_ok_iff, hu.trim_eq, Text.trim, String.toList_ofList,
    Chars.trim_eq_self (h.not_isBlank hhost.not_isBlank)]
  exact h.splitBare_eq hhost.noBracket (by simpa using hhost.ne_empty)

/-- A written endpoint is read back. -/
theorem readAs_text (h : Plain host) (p d : UInt16) : ReadAs d (text ⟨host, p⟩) ⟨host, p⟩ := by
  rcases hcolon : hasColon host.toList with _ | _
  · have hmem : ':' ∉ host.toList := by simpa [hasColon] using hcolon
    have hwrites : Shape.hostPort.Writes d ⟨host, p⟩ (text ⟨host, p⟩).toList :=
      ⟨portChars p, by simp [text, chars, hcolon], hmem, denotes_portChars p⟩
    exact hwrites.readAs h
  · have hwrites : Shape.bracketedPort.Writes d ⟨host, p⟩ (text ⟨host, p⟩).toList :=
      ⟨portChars p, by simp [text, chars, hcolon], denotes_portChars p⟩
    exact hwrites.readAs h

/-- A host in brackets has the port that stands in. -/
theorem readAs_enclosed (h : Plain host) (d : UInt16) :
    ReadAs d ("[" ++ host ++ "]") ⟨host, d⟩ := by
  have hwrites : Shape.bracketed.Writes d ⟨host, d⟩ ("[" ++ host ++ "]").toList :=
    ⟨by simp, rfl⟩
  exact hwrites.readAs h

/-- So does a host alone, unless its one colon could be the one before a port. -/
theorem readAs_host (h : Plain host) (d : UInt16) (hcount : host.toList.count ':' ≠ 1) :
    ReadAs d host ⟨host, d⟩ := by
  have hwrites : Shape.host.Writes d ⟨host, d⟩ host.toList := ⟨rfl, hcount, rfl⟩
  exact hwrites.readAs h

end Hosts

/-! ## Addresses in documents -/

/-- A text is the written form of the endpoint that an address splits into, and splits into it again
if the host is plain. -/
def Restates (t address : String) : Prop := ∃ e, split address defaultPort = .ok e ∧ t = e.text ∧
  (Plain e.host → ∀ d, ReadAs d t e)

theorem restates_of_canonical {address t : String} (h : Parameters.canonical address = .ok t) :
    Restates t address := by
  obtain ⟨e, he, rfl⟩ := Results.map_eq_ok_iff.mp h
  exact ⟨e, he, rfl, fun hhost => readAs_text hhost e.port⟩

end Endpoint

open Endpoint

variable {s : Selection} {g : Generation} {p : Parameters}

/-- The cluster document has the address that the nodes of the control plane share. -/
theorem ClusterDocument.restates_of {d : ClusterDocument} (h : ClusterDocument.of s p = .ok d)
    {address : String} (haddress : Text.nonBlank p.controlPlaneEndpoint = some address) :
    ∃ t, (d.tree g).field? "controlPlaneEndpoint" = some (.text t) ∧ Restates t address := by
  have hendpoint := sharedEndpoint_of h
  rw [Parameters.sharedEndpoint, haddress] at hendpoint
  obtain ⟨t, ht, hsome⟩ := Results.map_eq_ok_iff.mp hendpoint
  exact ⟨t, by rw [field?_controlPlaneEndpoint, ← hsome]; rfl, restates_of_canonical ht⟩

/-- The document of a further node has the address at which it joins. -/
theorem JoinDocument.restates_of {d : JoinDocument} (h : JoinDocument.of g p = .ok d) :
    ∃ address t, (Text.nonBlank p.join.apiServerEndpoint).or
        (Text.nonBlank p.controlPlaneEndpoint) = some address ∧
      (d.tree g).at? g.serverPath = some (g.serverTree t) ∧ Restates t address := by
  have hendpoint := joinEndpoint_of h
  unfold Parameters.joinEndpoint at hendpoint
  split at hendpoint
  · cases hendpoint
  next address haddress =>
    exact ⟨address, d.endpoint, haddress, d.at?_server g, restates_of_canonical hendpoint⟩

namespace Rendering

/-- **Written endpoints survive reading.** A host without blanks and brackets comes back from its
written form, from brackets around it and, unless it has exactly one colon, from itself, with any
blanks around and any port standing in. The addresses in the documents of a rendered configuration
are written forms of what the given addresses split into, so for such hosts they split into the
same host and port again. -/
theorem endpoints_reread :
    (∀ host, Plain host → ∀ port d : UInt16,
      ReadAs d (Endpoint.text ⟨host, port⟩) ⟨host, port⟩ ∧
      ReadAs d ("[" ++ host ++ "]") ⟨host, d⟩ ∧
      (host.toList.count ':' ≠ 1 → ReadAs d host ⟨host, d⟩)) ∧
    (∀ s p r, init s p = .ok r → ∃ first cluster agent,
      r = ⟨s.generation, assemble (first :: cluster :: agent)⟩ ∧
      cluster.IsOf s.generation.apiVersion "ClusterConfiguration" ∧
      ∀ address, Text.nonBlank p.controlPlaneEndpoint = some address →
        ∃ t, cluster.field? "controlPlaneEndpoint" = some (.text t) ∧ Restates t address) ∧
    ∀ s p r, join s p = .ok r → ∃ further agent,
      r = ⟨s.generation, assemble (further :: agent)⟩ ∧
      further.IsOf s.generation.apiVersion "JoinConfiguration" ∧
      ∃ address t, (Text.nonBlank p.join.apiServerEndpoint).or
          (Text.nonBlank p.controlPlaneEndpoint) = some address ∧
        further.at? s.generation.serverPath = some (s.generation.serverTree t) ∧
        Restates t address := by
  refine ⟨fun host h port d => ⟨readAs_text h port d, readAs_enclosed h d, readAs_host h d⟩, ?_, ?_⟩
  · intro s p r h
    obtain ⟨trees, htrees, rfl⟩ := Results.map_eq_ok_iff.mp h
    obtain ⟨first, cluster, -, hcluster, rfl⟩ := initTrees_eq_ok_iff.mp htrees
    exact ⟨_, _, _, rfl, rfl, fun address haddress => ClusterDocument.restates_of hcluster haddress⟩
  · intro s p r h
    obtain ⟨trees, htrees, rfl⟩ := Results.map_eq_ok_iff.mp h
    obtain ⟨further, hfurther, rfl⟩ := joinTrees_eq_ok_iff.mp htrees
    exact ⟨_, _, rfl, rfl, JoinDocument.restates_of hfurther⟩

/-- An address with colons, from which both configurations are made. -/
theorem endpoints_reread_of_colons :
    let s : Selection := ⟨⟨1, 16, 0⟩, .v1beta2, false⟩
    let p : Parameters :=
      { advertiseAddress := "10.0.0.10"
        controlPlaneEndpoint := some " [fd00::1]:7443 "
        join := { token := some "abcdef.0123456789abcdef" } }
    (∀ d, ReadAs d "fd00::1" ⟨"fd00::1", d⟩) ∧
    (∃ r first cluster agent t, init s p = .ok r ∧
      r.text = assemble (first :: cluster :: agent) ∧
      cluster.field? "controlPlaneEndpoint" = some (.text t) ∧
      ∀ d, ReadAs d t ⟨"fd00::1", 7443⟩) ∧
    ∃ r further agent t, join s p = .ok r ∧ r.text = assemble (further :: agent) ∧
      further.at? ["discovery", "bootstrapToken", "apiServerEndpoint"] = some (.text t) ∧
      ∀ d, ReadAs d t ⟨"fd00::1", 7443⟩ := by
  intro s p
  have hplain : Plain "fd00::1" := ⟨by decide, by simp [isBlank], by decide, by decide⟩
  have hread {t : String} (h : Restates t "[fd00::1]:7443") (d : UInt16) :
      ReadAs d t ⟨"fd00::1", 7443⟩ := by
    have hsplit : split "[fd00::1]:7443" defaultPort = .ok ⟨"fd00::1", 7443⟩ := by decide +kernel
    obtain ⟨e, he, rfl, hreads⟩ := h
    cases hsplit.symm.trans he
    exact hreads hplain d
  have hgiven : Text.nonBlank p.controlPlaneEndpoint = some "[fd00::1]:7443" := by decide
  obtain ⟨hhosts, hinit, hjoin⟩ := endpoints_reread
  obtain ⟨r, hr⟩ : ∃ r, init s p = .ok r := Results.exists_eq_ok_iff.mpr (by decide +kernel)
  obtain ⟨r', hr'⟩ : ∃ r', join s p = .ok r' := Results.exists_eq_ok_iff.mpr (by decide +kernel)
  obtain ⟨first, cluster, agent, rfl, -, hcluster⟩ := hinit s p r hr
  obtain ⟨t, hfield, ht⟩ := hcluster _ hgiven
  obtain ⟨further, agent', rfl, -, address, t', haddress, hfield', ht'⟩ := hjoin s p r' hr'
  obtain rfl : "[fd00::1]:7443" = address := Option.some.inj (hgiven.symm.trans haddress)
  exact ⟨fun d => (hhosts _ hplain 7443 d).2.2 (by decide),
    ⟨_, first, cluster, agent, t, hr, rfl, hfield, hread ht⟩,
    _, further, agent', t', hr', rfl, hfield', hread ht'⟩

end Rendering

end NodeBootstrap
