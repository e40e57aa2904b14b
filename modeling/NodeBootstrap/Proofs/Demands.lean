import NodeBootstrap.Proofs.Blanks
import NodeBootstrap.Proofs.Documents

/-!
# What rendering demands

Rendering checks a few settings one after the other; the first that is not as demanded is the
failure.

* `Demand`, `Demand.Decided`: what is asked of a setting, and results that demands decide in their
  order;
* `Demand.Decided.bind`: two steps are decided by what either demands;
* `Token.IsToken`, `Demand.decided_advertised`, `Demand.decided_check`, …: what the addresses and
  the tokens have to be;
* **`Rendering.rendering_decided`**: what the configurations of a first and of a further node
  demand, and that nothing else matters.
-/

namespace NodeBootstrap

open Text

/-- A failure that says what is wrong with a setting. -/
def Failure.OfSetting : Failure → Prop
  | validation _ => True
  | config _ => True
  | _ => False

/-- What is asked of a setting: when it is as demanded, and with which failure it is not. -/
structure Demand where
  met : Prop
  fails : Failure → Prop
  ofSetting : ∀ e, fails e → e.OfSetting

namespace Demand

/-- The failure of the first demand that is not met. -/
def Fails : List Demand → Failure → Prop
  | [], _ => False
  | d :: ds, e => d.fails e ∨ d.met ∧ Fails ds e

/-- A result that is there exactly when all demands are met, and is otherwise the failure of the
first that is not. -/
structure Decided {α : Type} (r : Except Failure α) (ds : List Demand) : Prop where
  ok_iff : (∃ a, r = .ok a) ↔ ∀ d ∈ ds, d.met
  error_iff : ∀ e, r = .error e ↔ Fails ds e

section Decided

variable {α β : Type} {r : Except Failure α} {ds ds' : List Demand}

theorem fails_append {e : Failure} :
    Fails (ds ++ ds') e ↔ Fails ds e ∨ (∀ d ∈ ds, d.met) ∧ Fails ds' e := by
  induction ds with
  | nil => simp [Fails]
  | cons d ds ih =>
    rw [List.cons_append, Fails, Fails, ih, List.forall_mem_cons]
    tauto

theorem ofSetting_of_fails {e : Failure} (h : Fails ds e) : e.OfSetting := by
  induction ds with
  | nil => exact h.elim
  | cons d ds ih =>
    rcases h with h | ⟨-, h⟩
    · exact d.ofSetting e h
    · exact ih h

namespace Decided

theorem ok (a : α) : Decided (.ok a) [] := ⟨by simp, by simp [Fails]⟩

theorem of_met {d : Demand} (hmet : d.met) (hfails : ∀ e, ¬d.fails e) (a : α) :
    Decided (.ok a) [d] := ⟨by simp [hmet], by simp [Fails, hfails]⟩

theorem of_unmet {d : Demand} {e : Failure} (hmet : ¬d.met) (hfails : ∀ e', d.fails e' ↔ e' = e) :
    Decided (.error e : Except Failure α) [d] :=
  ⟨by simp [hmet], by simp [Fails, hfails, eq_comm]⟩

theorem map (h : Decided r ds) (f : α → β) : Decided (r.map f) ds := by
  rcases r with e | a
  · refine ⟨?_, fun e' => ?_⟩
    · rw [← h.ok_iff]
      simp [Except.map]
    · rw [← h.error_iff]
      simp [Except.map]
  · refine ⟨?_, fun e' => ?_⟩
    · rw [← h.ok_iff]
      simp [Except.map]
    · rw [← h.error_iff]
      simp [Except.map]

/-- Two steps are decided by what the first demands, and then by what the second does. -/
theorem bind {f : α → Except Failure β} (h : Decided r ds) (hf : ∀ a, Decided (f a) ds') :
    Decided (r >>= f) (ds ++ ds') := by
  rcases r with e | a
  · have hunmet : ¬∀ d ∈ ds, d.met := fun hmet => by simpa using h.ok_iff.mpr hmet
    refine ⟨?_, fun e' => ?_⟩
    · rw [List.forall_mem_append]
      simp [Bind.bind, Except.bind, hunmet]
    · rw [fails_append, ← h.error_iff]
      simp [Bind.bind, Except.bind, hunmet]
  · have hmet : ∀ d ∈ ds, d.met := h.ok_iff.mp ⟨a, rfl⟩
    have hpass : (∀ d ∈ ds, d.met) ↔ True := iff_true_intro hmet
    have hnone (e' : Failure) : ¬Fails ds e' := fun hfails => by
      simpa using (h.error_iff e').mpr hfails
    refine ⟨?_, fun e' => ?_⟩
    · rw [List.forall_mem_append, ← (hf a).ok_iff, hpass, true_and]
      rfl
    · rw [fails_append, ← (hf a).error_iff, hpass, true_and, or_iff_right (hnone e')]
      rfl

/-- A result that demands decide does not fail for anything but a setting. -/
theorem ofSetting {e : Failure} (h : Decided r ds) (he : r = .error e) : e.OfSetting :=
  ofSetting_of_fails ((h.error_iff e).mp he)

/-- Results that the same demands decide end alike. -/
theorem outcome_eq {r' : Except Failure β} (h : Decided r ds) (h' : Decided r' ds) :
    (r.map fun _ => ()) = r'.map fun _ => () := by
  rcases r with e | a
  · rw [(h'.error_iff e).mpr ((h.error_iff e).mp rfl)]
    rfl
  · obtain ⟨b, rfl⟩ := h'.ok_iff.mpr (h.ok_iff.mp ⟨a, rfl⟩)
    rfl

end Decided

end Decided

end Demand

/-! ## Tokens -/

/-- Six small letters or digits, a dot, and sixteen of them. -/
def Token.IsToken (t : String) : Prop :=
  ∃ front back : List Char, t.toList = front ++ '.' :: back ∧ front.length = 6 ∧
    back.length = 16 ∧ ∀ c ∈ front ++ back, ('a' ≤ c ∧ c ≤ 'z') ∨ ('0' ≤ c ∧ c ≤ '9')

theorem Token.wellFormed_iff {t : String} : wellFormed t.toList = true ↔ IsToken t := by
  have hchar (c : Char) : isTokenChar c = true ↔ ('a' ≤ c ∧ c ≤ 'z') ∨ ('0' ≤ c ∧ c ≤ '9') := by
    simp [isTokenChar]
  simp only [wellFormed, Bool.and_eq_true, beq_iff_eq, List.all_eq_true, hchar]
  constructor
  · rintro ⟨⟨⟨hlength, hfront⟩, hdot⟩, hback⟩
    have hcut : t.toList.drop 6 = '.' :: t.toList.drop 7 := by
      rw [List.head?_eq_some_iff] at hdot
      obtain ⟨back, hdrop⟩ := hdot
      have htail : t.toList.drop 7 = back := by
        rw [show 7 = 6 + 1 from rfl, ← List.drop_drop, hdrop, List.drop_succ_cons, List.drop_zero]
      rw [htail, hdrop]
    refine ⟨t.toList.take 6, t.toList.drop 7, ?_, by simp [hlength], by simp [hlength], ?_⟩
    · rw [← hcut, List.take_append_drop]
    · intro c hc
      exact (List.mem_append.mp hc).elim (hfront c) (hback c)
  · rintro ⟨front, back, heq, hfront, hback, hall⟩
    have htake : t.toList.take 6 = front := by rw [heq, ← hfront, List.take_left]
    have hdrop : t.toList.drop 6 = '.' :: back := by rw [heq, ← hfront, List.drop_left]
    have hrest : t.toList.drop 7 = back := by
      rw [show 7 = 6 + 1 from rfl, ← List.drop_drop, hdrop, List.drop_succ_cons, List.drop_zero]
    rw [htake, hdrop, hrest]
    refine ⟨⟨⟨by simp [heq, hfront, hback], fun c hc => ?_⟩, rfl⟩, fun c hc => ?_⟩
    · exact hall c (List.mem_append_left _ hc)
    · exact hall c (List.mem_append_right _ hc)

/-! ## Addresses and tokens as they are demanded -/

namespace Demand

/-- An address that splits into a host and a port. -/
def Splits (address : String) : Prop := ∃ e, Endpoint.split address Endpoint.defaultPort = .ok e

theorem ofSetting_of_split {t : String} {e : Failure}
    (h : Endpoint.split t Endpoint.defaultPort = .error e) : e.OfSetting := by
  unfold Endpoint.split at h
  split at h
  · cases h
  · cases h
    exact trivial

/-- A demand on a setting, once it counts. -/
structure Check where
  holds : String → Prop
  fails : String → Failure → Prop
  ofSetting : ∀ t e, fails t e → e.OfSetting

/-- The setting has to split into a host and a port. -/
def Check.splits : Check :=
  ⟨Splits, fun t e => Endpoint.split t Endpoint.defaultPort = .error e,
    fun _ _ => ofSetting_of_split⟩

/-- The setting has to be a token; the failure names the field it is in. -/
def Check.token (field : String) : Check :=
  ⟨Token.IsToken, fun t e => ¬Token.IsToken t ∧ e = .validation (.badToken field t),
    fun _ _ h => h.2 ▸ trivial⟩

/-- A setting that may be left out. -/
def ifGiven (setting : Option String) (check : Check) : Demand :=
  ⟨∀ t, setting = some t → check.holds t, fun e => ∃ t, setting = some t ∧ check.fails t e,
    fun e ⟨t, _, h⟩ => check.ofSetting t e h⟩

/-- A setting that may not be left out. -/
def given (setting : Option String) (missing : ValidationFault) (check : Check) : Demand where
  met := ∃ t, setting = some t ∧ check.holds t
  fails e := (setting = none ∧ e = .validation missing) ∨ ∃ t, setting = some t ∧ check.fails t e
  ofSetting := by
    rintro e (⟨-, rfl⟩ | ⟨t, -, h⟩)
    · exact trivial
    · exact check.ofSetting t e h

/-- An address that may not be blank and has to split. -/
def address (a : String) : Demand where
  met := blank a = false ∧ Splits a
  fails e := (blank a = true ∧ e = .validation .advertiseAddressMissing) ∨
    (blank a = false ∧ Endpoint.split a Endpoint.defaultPort = .error e)
  ofSetting := by
    rintro e (⟨-, rfl⟩ | ⟨-, h⟩)
    · exact trivial
    · exact ofSetting_of_split h

theorem decided_advertised (p : Parameters) :
    Decided p.advertised [address p.advertiseAddress] := by
  unfold Parameters.advertised
  simp only [trim_eq_empty_iff]
  split_ifs with hblank
  · exact .of_unmet (by simp [address, hblank]) (by simp [address, hblank])
  · have hgiven : blank p.advertiseAddress = false := by simpa using hblank
    rcases hsplit : Endpoint.split p.advertiseAddress Endpoint.defaultPort with e | a
    · exact .of_unmet (by simp [address, Splits, hsplit])
        (by simp [address, hgiven, hsplit, eq_comm])
    · exact .of_met (by simp [address, hgiven, Splits, hsplit])
        (by simp [address, hgiven, hsplit]) a

theorem decided_check (field : String) (setting : Option String) :
    Decided (Token.check field setting) [ifGiven setting (.token field)] := by
  rcases setting with _ | t
  · exact .of_met (by simp [ifGiven]) (by simp [ifGiven]) none
  · rw [Token.check]
    split_ifs with h
    · have htoken := Token.wellFormed_iff.mp h
      exact .of_met (by simp [ifGiven, Check.token, htoken])
        (by simp [ifGiven, Check.token, htoken]) (some t)
    · have htoken := mt Token.wellFormed_iff.mpr h
      exact .of_unmet (by simp [ifGiven, Check.token, htoken])
        (by simp [ifGiven, Check.token, htoken])

theorem decided_canonical (t : String) :
    Decided (Parameters.canonical t) [ifGiven (some t) .splits] := by
  refine Decided.map ?_ _
  rcases hsplit : Endpoint.split t Endpoint.defaultPort with e | a
  · exact .of_unmet (by simp [ifGiven, Check.splits, Splits, hsplit])
      (by simp [ifGiven, Check.splits, hsplit, eq_comm])
  · exact .of_met (by simp [ifGiven, Check.splits, Splits, hsplit])
      (by simp [ifGiven, Check.splits, hsplit]) a

theorem decided_sharedEndpoint (p : Parameters) :
    Decided p.sharedEndpoint [ifGiven (nonBlank p.controlPlaneEndpoint) .splits] := by
  unfold Parameters.sharedEndpoint
  rcases nonBlank p.controlPlaneEndpoint with _ | t
  · exact .of_met (by simp [ifGiven]) (by simp [ifGiven]) none
  · exact (decided_canonical t).map some

/-- A setting that is there is checked alike whether or not it may be left out. -/
theorem Decided.given {α : Type} {r : Except Failure α} {t : String} {check : Check}
    (h : Decided r [ifGiven (some t) check]) (missing : ValidationFault) :
    Decided r [given (some t) missing check] :=
  ⟨h.ok_iff.trans (by simp [ifGiven, Demand.given]),
    fun e => (h.error_iff e).trans (by simp [ifGiven, Demand.given, Fails])⟩

theorem decided_joinEndpoint (p : Parameters) : Decided p.joinEndpoint
    [given ((nonBlank p.join.apiServerEndpoint).or (nonBlank p.controlPlaneEndpoint))
      .joinEndpointMissing .splits] := by
  unfold Parameters.joinEndpoint
  rcases (nonBlank p.join.apiServerEndpoint).or (nonBlank p.controlPlaneEndpoint) with _ | t
  · exact .of_unmet (by simp [given]) (by simp [given])
  · exact (decided_canonical t).given .joinEndpointMissing

theorem decided_joinToken (p : Parameters) : Decided p.joinToken
    [given (nonBlank p.join.token) .joinTokenMissing (.token "join.token")] := by
  unfold Parameters.joinToken
  rcases nonBlank p.join.token with _ | t
  · exact .of_unmet (by simp [given]) (by simp [given])
  · refine Decided.given ?_ .joinTokenMissing
    have h := decided_check "join.token" (some t)
    unfold Token.check at h ⊢
    dsimp only at h ⊢
    split_ifs at h ⊢ with hform
    · exact h.map fun _ => t
    · exact h.map fun _ => t

end Demand

/-! ## Documents -/

open Demand

/-- What a first node's own document demands. -/
theorem InitDocument.decided_of (g : Generation) (p : Parameters) : Decided (InitDocument.of g p)
    [address p.advertiseAddress, ifGiven (nonBlank p.bootstrapToken) (.token "bootstrap_token")] :=
  (decided_advertised p).bind fun _ => ((decided_check _ _).bind fun _ => .ok _)

/-- What the document that all nodes share demands. -/
theorem ClusterDocument.decided_of (s : Selection) (p : Parameters) :
    Decided (ClusterDocument.of s p) [ifGiven (nonBlank p.controlPlaneEndpoint) .splits] :=
  (decided_sharedEndpoint p).bind fun _ => .ok _

theorem JoinControlPlane.decided_of? (g : Generation) (p : Parameters) :
    Decided (JoinControlPlane.of? g p)
      (if p.join.controlPlane then [address p.advertiseAddress] else []) := by
  unfold JoinControlPlane.of?
  split_ifs
  · exact (decided_advertised p).map _
  · exact .ok none

/-- What a further node's own document demands. -/
theorem JoinDocument.decided_of (g : Generation) (p : Parameters) : Decided (JoinDocument.of g p)
    ([given ((nonBlank p.join.apiServerEndpoint).or (nonBlank p.controlPlaneEndpoint))
        .joinEndpointMissing .splits,
      given (nonBlank p.join.token) .joinTokenMissing (.token "join.token")] ++
      if p.join.controlPlane then [address p.advertiseAddress] else []) := by
  rw [← List.append_nil (if p.join.controlPlane then _ else _)]
  exact (decided_joinEndpoint p).bind fun _ =>
    (decided_joinToken p).bind fun _ => (JoinControlPlane.decided_of? g p).bind fun _ => .ok _

namespace Rendering

/-- What the configuration of a first node demands, in the order in which it is checked. -/
def initDemands (p : Parameters) : List Demand :=
  [address p.advertiseAddress, ifGiven (nonBlank p.bootstrapToken) (.token "bootstrap_token"),
    ifGiven (nonBlank p.controlPlaneEndpoint) .splits]

/-- What the configuration of a further node demands, in the order in which it is checked. -/
def joinDemands (p : Parameters) : List Demand :=
  [given ((nonBlank p.join.apiServerEndpoint).or (nonBlank p.controlPlaneEndpoint))
      .joinEndpointMissing .splits,
    given (nonBlank p.join.token) .joinTokenMissing (.token "join.token")] ++
    if p.join.controlPlane then [address p.advertiseAddress] else []

theorem decided_init (s : Selection) (p : Parameters) : Decided (init s p) (initDemands p) := by
  unfold init
  rw [initTrees_eq]
  exact ((InitDocument.decided_of s.generation p).bind fun _ =>
    (ClusterDocument.decided_of s p).map _).map _

theorem decided_join (s : Selection) (p : Parameters) : Decided (join s p) (joinDemands p) := by
  unfold join
  rw [joinTrees_eq]
  exact ((JoinDocument.decided_of s.generation p).map _).map _

/-- **Rendering is decided by a few settings**, checked in a fixed order: the configuration of a
first node by the advertised address, the token and the shared endpoint; that of a further node by
the endpoint at which it joins, its token and, for a node of the control plane, the advertised
address. The version and all other settings do not matter, and the failure is never one of a
template. -/
theorem rendering_decided (s : Selection) (p : Parameters) :
    (Decided (init s p) (initDemands p) ∧ Decided (join s p) (joinDemands p)) ∧
    (∀ (s' : Selection) (p' : Parameters), ((init s' { p' with
        advertiseAddress := p.advertiseAddress
        bootstrapToken := p.bootstrapToken
        controlPlaneEndpoint := p.controlPlaneEndpoint }).map fun _ => ()) =
      (init s p).map fun _ => ()) ∧
    (∀ (s' : Selection) (p' : Parameters), ((join s' { p' with
        advertiseAddress := p.advertiseAddress
        controlPlaneEndpoint := p.controlPlaneEndpoint
        join := { p'.join with
          apiServerEndpoint := p.join.apiServerEndpoint
          token := p.join.token
          controlPlane := p.join.controlPlane } }).map fun _ => ()) =
      (join s p).map fun _ => ()) ∧
    ∀ fault, init s p ≠ .error (.template fault) ∧ join s p ≠ .error (.template fault) := by
  refine ⟨⟨decided_init s p, decided_join s p⟩, fun s' p' => ?_, fun s' p' => ?_, fun fault => ?_⟩
  · exact (decided_init s' _).outcome_eq (decided_init s p)
  · exact (decided_join s' _).outcome_eq (decided_join s p)
  · exact ⟨fun h => (decided_init s p).ofSetting h, fun h => (decided_join s p).ofSetting h⟩

end Rendering

end NodeBootstrap
