import NodeBootstrap.Proofs.UpgradeHistory
import NodeBootstrap.Proofs.Watching

/-!
# How low an upgrade may go

The lower one of the server and the record counts as the running version. No routine runs below
it; where the two disagree, a routine may run below the higher one.

* `Climbs.le_of_mem`: steps that climb stay above their start;
* `Plan.first`, `Plan.floor_of_mem`: the version of the first step of a plan, and how low its steps
  are;
* **`Governor.upgrade_stays_above_current`**: every routine of an upgrade runs at the lower source
  or above it;
* **`Governor.upgrade_runs_below_server`**: a server ahead of its record is led back.
-/

namespace NodeBootstrap

variable {σ : Type} {v target top : Version} {o : Observation} {p : Plan}

/-! ## The lower source -/

/-- A version from the lower source on is one from either source on. -/
theorem Observation.current_le_iff : o.current ≤ v ↔ o.server ≤ v ∨ o.recorded ≤ v :=
  @Standing.current_le_iff ⟨o.server, o.recorded⟩ v

/-! ## Steps and where they start -/

/-- Steps that climb stay above their start. -/
theorem Climbs.le_of_mem {steps : List (Move × Version)} (hc : Climbs top v steps)
    {step : Move × Version} (hmem : step ∈ steps) : v ≤ step.2 := by
  induction steps generalizing v with
  | nil => cases hmem
  | cons next steps ih =>
    obtain ⟨hreach, -, hrest⟩ := hc
    rcases List.mem_cons.mp hmem with rfl | hmem
    · exact hreach.le
    · exact Version.le_trans hreach.le (ih hrest hmem)

/-- The version of the first step of a plan. -/
def Plan.first (p : Plan) : Version := p.staging.getD p.target

/-- The first step of a plan is its lowest. -/
theorem Plan.first_le_of_mem (hp : Plan.of o target = .ok p) {step : Move × Version}
    (hmem : step ∈ p.steps) : p.first ≤ step.2 := by
  have hclimbs := Plan.climbs_steps hp
  obtain ⟨move, selection, -, -, rfl⟩ := Plan.of_eq_ok_iff.mp hp
  cases move with
  | patch =>
    obtain rfl := List.mem_singleton.mp hmem
    exact Version.le_refl _
  | minor =>
    rcases List.mem_cons.mp hmem with rfl | hmem
    · exact Version.le_refl _
    · exact Climbs.le_of_mem hclimbs.2.2 hmem

/-- The steps of a plan are not below the lower source. They are below neither source when the two
agree, and when neither is above the first step. -/
theorem Plan.floor_of_mem (hp : Plan.of o target = .ok p) {step : Move × Version}
    (hmem : step ∈ p.steps) : (o.server ≤ step.2 ∨ o.recorded ≤ step.2) ∧
      (o.server = o.recorded → o.server ≤ step.2 ∧ o.recorded ≤ step.2) ∧
      (o.server ≤ p.first → o.recorded ≤ p.first → o.server ≤ step.2 ∧ o.recorded ≤ step.2) := by
  have hfloor := Observation.current_le_iff.mp ((Plan.climbs_steps hp).le_of_mem hmem)
  have hfirst := Plan.first_le_of_mem hp hmem
  refine ⟨hfloor, fun hagree => ?_, fun hserver hrecorded => ?_⟩
  · rw [hagree, or_self] at hfloor
    exact ⟨hagree ▸ hfloor, hfloor⟩
  · exact ⟨Version.le_trans hserver hfirst, Version.le_trans hrecorded hfirst⟩

/-- A release at which a plan enters a minor line is one of its steps. -/
theorem Plan.mem_steps_of_staging (h : p.staging = some v) : (.minor, v) ∈ p.steps := by
  simp [Plan.steps, h]

/-- A target below both sources is refused. -/
theorem Plan.exists_refusal (hserver : target < o.server) (hrecorded : target < o.recorded) :
    ∃ e, Plan.of o target = .error e := by
  rcases hp : Plan.of o target with e | p
  · exact ⟨e, rfl⟩
  · obtain ⟨move, selection, hmove, -, -⟩ := Plan.of_eq_ok_iff.mp hp
    have hreach : o.current.Reaches target := Version.reaches_iff.mpr ⟨move, hmove⟩
    rcases Observation.current_le_iff.mp hreach.le with hle | hle
    · exact absurd hle (Version.not_le.mpr hserver)
    · exact absurd hle (Version.not_le.mpr hrecorded)

namespace Governor

/-- What an upgrade with a plan calls after it has observed. -/
theorem calls_upgrade_watched {r : Routines σ} {w u : Watched σ}
    (h : (plan r.watched target).exec w = (.ok p, u)) :
    ∃ made, ((upgrade r.watched target).exec w).2.calls = u.calls ++ made ∧
      ∀ call ∈ made, ∃ step ∈ p.steps, ∃ answer, call = .ran step answer := by
  rw [exec_upgrade_of_plan h]
  rcases r.exec_runAll_watched p.steps u with
    ⟨t, hrun⟩ | ⟨before, step, rest, e, t, hsteps, hrun⟩
  · rw [Act.exec_bind_ok hrun]
    refine ⟨_, rfl, fun call hcall => ?_⟩
    obtain ⟨step, hstep, rfl⟩ := List.mem_map.mp hcall
    exact ⟨step, hstep, _, rfl⟩
  · rw [Act.exec_bind_error hrun, hsteps]
    refine ⟨_, rfl, fun call hcall => ?_⟩
    rcases List.mem_append.mp hcall with hcall | hcall
    · obtain ⟨step', hstep', rfl⟩ := List.mem_map.mp hcall
      exact ⟨step', List.mem_append_left _ hstep', _, rfl⟩
    · obtain rfl := List.mem_singleton.mp hcall
      exact ⟨step, by simp, _, rfl⟩

/-- **No routine runs below the lower source.** Whatever the routines do, an upgrade observes once,
and every later call is one of a routine at a version that is not below the lower one of the server
and the record. It is below neither of them when they agree, and when neither is above the first
step. A target below both is refused, and then no routine is called. -/
theorem upgrade_stays_above_current (r : Routines σ) (target : Version) (w : Watched σ) :
    ∃ answer made, ((upgrade r.watched target).exec w).2.calls =
        w.calls ++ .observed answer :: made ∧
      match answer with
      | .error _ => made = []
      | .ok o =>
        (∀ call ∈ made, ∃ step result, call = .ran step result ∧
          (o.server ≤ step.2 ∨ o.recorded ≤ step.2) ∧
          (o.server = o.recorded → o.server ≤ step.2 ∧ o.recorded ≤ step.2) ∧
          ∀ p, Plan.of o target = .ok p → o.server ≤ p.first → o.recorded ≤ p.first →
            o.server ≤ step.2 ∧ o.recorded ≤ step.2) ∧
        (∀ p v, Plan.of o target = .ok p → p.staging = some v → o.server ≤ v ∨ o.recorded ≤ v) ∧
        (target < o.server → target < o.recorded →
          made = [] ∧ ∃ e, ((upgrade r.watched target).exec w).1 = .error e) := by
  obtain ⟨answer, t, hobserve⟩ := exec_observe_watched r w
  have hplan := exec_plan hobserve target
  refine ⟨answer, ?_⟩
  rcases answer with e | o
  · exact ⟨[], by rw [exec_upgrade_of_refusal hplan], rfl⟩
  have hstaging : ∀ p v, Plan.of o target = .ok p → p.staging = some v →
      o.server ≤ v ∨ o.recorded ≤ v := fun p v hp hv =>
    (Plan.floor_of_mem hp (Plan.mem_steps_of_staging hv)).1
  change (plan r.watched target).exec w = (Plan.of o target, _) at hplan
  rcases hp : Plan.of o target with e | p
  · rw [hp] at hplan
    rw [exec_upgrade_of_refusal hplan]
    exact ⟨[], rfl, by simp, hstaging, fun _ _ => ⟨rfl, e, rfl⟩⟩
  · rw [hp] at hplan
    obtain ⟨made, hmade, hsteps⟩ := calls_upgrade_watched hplan
    refine ⟨made, by simp [hmade], fun call hcall => ?_, hstaging, fun hserver hrecorded => ?_⟩
    · obtain ⟨step, hstep, result, rfl⟩ := hsteps call hcall
      obtain ⟨hlower, hagree, hfirst⟩ := Plan.floor_of_mem hp hstep
      refine ⟨step, result, rfl, hlower, hagree, fun p' hp' => ?_⟩
      obtain rfl : p = p' := Except.ok.inj (hp.symm.trans hp')
      exact hfirst
    · obtain ⟨e, he⟩ := Plan.exists_refusal hserver hrecorded
      rw [he] at hp
      cases hp

end Governor

/-- A host that reports what it is given and whose routines succeed. -/
def Routines.willing (o : Observation) : Routines Unit where
  observe := return o
  minor _ := return ()
  patch _ := return ()

/-- **A server ahead of its record is led back**, by both routines of a move into its own minor
line. -/
theorem Governor.upgrade_runs_below_server :
    let o : Observation := ⟨⟨1, 17, 5⟩, ⟨1, 17, 5⟩, ⟨1, 16, 0⟩⟩
    ((upgrade (Routines.willing o).watched ⟨1, 17, 2⟩).exec ⟨(), []⟩).2.calls =
        [.observed (.ok o), .ran (.minor, ⟨1, 17, 0⟩) (.ok ()),
          .ran (.patch, ⟨1, 17, 2⟩) (.ok ())] ∧
      (⟨1, 17, 0⟩ : Version) < o.server ∧ (⟨1, 17, 2⟩ : Version) < o.server :=
  ⟨rfl, by decide, by decide⟩

end NodeBootstrap
