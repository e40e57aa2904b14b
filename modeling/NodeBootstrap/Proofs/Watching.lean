import NodeBootstrap.Proofs.Governing

/-!
# Watching the governor

A host is watched by noting every call of its routines together with the answer it got.

* `RoutineCall`, `Watched`, `Routines.watched`: calls, states with the calls so far, and the
  routines of a watched host;
* `Governor.shadows_upgrade`: watching a host changes nothing else;
* `Routines.exec_runAll_watched`: steps are called in order, up to the first that fails;
* `Plan.move_entry`: from where the last step begins, it is a move within the minor line;
* **`Governor.upgrade_carries_out_plan`**: an upgrade refuses what its plan refuses, and calls the
  steps of its plan and nothing else.
-/

namespace NodeBootstrap

/-- A call of a routine and the answer to it. -/
inductive RoutineCall where
  | observed (answer : Except Failure Observation)
  | ran (step : Move × Version) (answer : Except Failure Unit)

/-- A state together with the calls so far, the first one first. -/
structure Watched (σ : Type) where
  state : σ
  calls : List RoutineCall

/-- The action, with a note of what it answered. -/
def Act.noted {σ α : Type} (a : Act σ α) (note : Except Failure α → RoutineCall) :
    Act (Watched σ) α :=
  Act.of fun w =>
    ((a.exec w.state).1, ⟨(a.exec w.state).2, w.calls ++ [note (a.exec w.state).1]⟩)

/-- The routines of a host whose calls are noted. -/
def Routines.watched {σ : Type} (r : Routines σ) : Routines (Watched σ) where
  observe := r.observe.noted .observed
  minor v := (r.minor v).noted (.ran (.minor, v))
  patch v := (r.patch v).noted (.ran (.patch, v))

variable {σ α β : Type} {r : Routines σ} {w : Watched σ} {target : Version} {o : Observation}
  {p : Plan}

/-! ## Watching changes nothing -/

/-- An action on watched states that does to the states themselves what another one does. -/
def Act.Shadows (a' : Act (Watched σ) α) (a : Act σ α) : Prop :=
  ∀ w, a.exec w.state = ((a'.exec w).1, (a'.exec w).2.state)

namespace Act

theorem Shadows.noted (a : Act σ α) (note : Except Failure α → RoutineCall) :
    (a.noted note).Shadows a := fun _ => rfl

theorem Shadows.pure (v : α) : (pure v : Act (Watched σ) α).Shadows (pure v) := fun _ => rfl

theorem Shadows.throw (e : Failure) : (throw e : Act (Watched σ) α).Shadows (throw e) :=
  fun _ => rfl

theorem Shadows.ofExcept (x : Except Failure α) :
    (ofExcept x : Act (Watched σ) α).Shadows (ofExcept x) := fun _ => rfl

theorem Shadows.bind {a' : Act (Watched σ) α} {a : Act σ α} {f' : α → Act (Watched σ) β}
    {f : α → Act σ β} (ha : a'.Shadows a) (hf : ∀ v, (f' v).Shadows (f v)) :
    (a' >>= f').Shadows (a >>= f) := by
  intro w
  have hw := ha w
  rw [exec_bind, exec_bind, hw]
  rcases a'.exec w with ⟨e | v, u⟩
  · rfl
  · exact hf v u

end Act

namespace Governor

theorem shadows_plan (r : Routines σ) (target : Version) :
    (plan r.watched target).Shadows (plan r target) :=
  (Act.Shadows.noted r.observe .observed).bind fun o => Act.Shadows.ofExcept (Plan.of o target)

theorem shadows_enterLine (r : Routines σ) (p : Plan) :
    (enterLine r.watched p).Shadows (enterLine r p) := by
  unfold enterLine
  rcases p.staging with _ | v
  · exact Act.Shadows.pure p.current
  · exact (Act.Shadows.noted (r.minor v) (.ran (.minor, v))).bind fun _ => Act.Shadows.pure v

theorem shadows_converge (r : Routines σ) (current target : Version) :
    (converge r.watched current target).Shadows (converge r current target) := by
  unfold converge
  rcases current.move target with e | _ | _
  · exact Act.Shadows.throw e
  · exact Act.Shadows.noted (r.patch target) (.ran (.patch, target))
  · exact Act.Shadows.throw _

/-- Watching a host changes nothing else. -/
theorem shadows_upgrade (r : Routines σ) (target : Version) :
    (upgrade r.watched target).Shadows (upgrade r target) :=
  (shadows_plan r target).bind fun p => (shadows_enterLine r p).bind fun current =>
    (shadows_converge r current target).bind fun _ => Act.Shadows.pure p.report

end Governor

/-! ## The calls of steps -/

/-- The calls of steps that all succeed. -/
def RoutineCall.succeeding (steps : List (Move × Version)) : List RoutineCall :=
  steps.map fun step => .ran step (.ok ())

theorem Routines.exec_run_watched (r : Routines σ) (step : Move × Version) (w : Watched σ) :
    ∃ answer t, (r.watched.run step.1 step.2).exec w = (answer, ⟨t, w.calls ++ [.ran step answer]⟩)
    := by
  rcases step with ⟨_ | _, v⟩
  · exact ⟨_, _, rfl⟩
  · exact ⟨_, _, rfl⟩

/-- Steps are called in order, up to the first that fails. -/
theorem Routines.exec_runAll_watched (r : Routines σ) (steps : List (Move × Version))
    (w : Watched σ) :
    (∃ t, (r.watched.runAll steps).exec w =
      (.ok (), ⟨t, w.calls ++ RoutineCall.succeeding steps⟩)) ∨
      ∃ before step rest e t, steps = before ++ step :: rest ∧
        (r.watched.runAll steps).exec w =
          (.error e,
            ⟨t, w.calls ++ (RoutineCall.succeeding before ++ [.ran step (.error e)])⟩) := by
  induction steps generalizing w with
  | nil => exact Or.inl ⟨w.state, by simp [runAll, RoutineCall.succeeding]⟩
  | cons step steps ih =>
    obtain ⟨answer, t, hrun⟩ := r.exec_run_watched step w
    rw [runAll]
    rcases answer with e | _
    · rw [Act.exec_bind_error hrun]
      exact Or.inr ⟨[], step, steps, e, t, rfl, rfl⟩
    · rw [Act.exec_bind_ok hrun]
      rcases ih ⟨t, w.calls ++ [.ran step (.ok ())]⟩ with
        ⟨u, hrest⟩ | ⟨before, failing, rest, e, u, rfl, hrest⟩
      · exact Or.inl ⟨u, by simp [hrest, RoutineCall.succeeding]⟩
      · refine Or.inr ⟨step :: before, failing, rest, e, u, rfl, ?_⟩
        simp [hrest, RoutineCall.succeeding]

/-! ## The last step -/

/-- The version from which a plan converges on its target. -/
def Plan.entry (p : Plan) : Version := p.staging.getD p.current

/-- From where the last step begins, it is a move within the minor line. -/
theorem Plan.move_entry (hp : Plan.of o target = .ok p) : p.entry.move target = .ok .patch := by
  obtain ⟨move, selection, hmove, -, rfl⟩ := Plan.of_eq_ok_iff.mp hp
  cases move with
  | patch => exact hmove
  | minor => exact Version.move_minorBase target

theorem Version.move_ne_validation (a b : Version) (fault : ValidationFault) :
    a.move b ≠ .error (.validation fault) := by
  simp only [move]
  split_ifs
  all_goals simp

theorem Selection.of_ne_validation (v : Version) (fault : ValidationFault) :
    of v ≠ .error (.validation fault) := by
  unfold of
  rcases of? v with _ | selection
  · simp
  · simp

/-- A plan is refused for the move or for the version, and for nothing else. -/
theorem Plan.of_ne_validation (o : Observation) (target : Version) (fault : ValidationFault) :
    of o target ≠ .error (.validation fault) := by
  intro h
  rcases Results.bind_eq_error_iff.mp h with hmove | ⟨move, -, h⟩
  · exact Version.move_ne_validation _ _ _ hmove
  rcases Results.bind_eq_error_iff.mp h with hselection | ⟨selection, -, h⟩
  · exact Selection.of_ne_validation _ _ hselection
  · cases h

/-- The steps of a plan are the way into the target's minor line, if it needs one, and then the
routine at the target. -/
theorem Plan.steps_of (hp : Plan.of o target = .ok p) :
    ∃ before, p.steps = before ++ [(.patch, target)] ∧ ∀ step ∈ before, step.1 = .minor := by
  obtain ⟨move, selection, -, -, rfl⟩ := Plan.of_eq_ok_iff.mp hp
  refine ⟨_, rfl, fun step hstep => ?_⟩
  rw [Option.mem_toList, Option.map_eq_some_iff] at hstep
  obtain ⟨v, -, rfl⟩ := hstep
  rfl

namespace Governor

theorem exec_observe_watched (r : Routines σ) (w : Watched σ) : ∃ answer t,
    r.watched.observe.exec w = (answer, ⟨t, w.calls ++ [.observed answer]⟩) := ⟨_, _, rfl⟩

/-- The answer to the observation decides over the plan. -/
theorem exec_plan {s t : σ} {answer : Except Failure Observation}
    (h : r.observe.exec s = (answer, t)) (target : Version) :
    (plan r target).exec s = (answer.bind fun o => Plan.of o target, t) := by
  rcases answer with e | o
  · exact exec_plan_of_error h
  · exact exec_plan_of_ok h

/-- **An upgrade carries out its plan.** Whatever the routines do, an upgrade observes once. What
the plan for that observation refuses, the upgrade refuses for the same reason, without any further
call. Otherwise it calls the steps of the plan in order: all of them, the routine at the target
being the last and the only one of its kind, and it returns the report of the plan; or those up to
the first that fails, and it returns that failure. It never stops for the reason that its last step
would leave the minor line. -/
theorem upgrade_carries_out_plan (r : Routines σ) (target : Version) (w : Watched σ) :
    (upgrade r target).exec w.state =
      (((upgrade r.watched target).exec w).1, ((upgrade r.watched target).exec w).2.state) ∧
    (∀ o current goal step,
      Plan.of o target ≠ .error (.validation (.notConvergent current goal step))) ∧
    ∃ answer t,
      r.watched.observe.exec w = (answer, ⟨t, w.calls ++ [.observed answer]⟩) ∧
      (plan r.watched target).exec w =
        (answer.bind fun o => Plan.of o target, ⟨t, w.calls ++ [.observed answer]⟩) ∧
      match answer.bind fun o => Plan.of o target with
      | .error e =>
        (upgrade r.watched target).exec w = (.error e, ⟨t, w.calls ++ [.observed answer]⟩)
      | .ok p => p.entry.move target = .ok .patch ∧
        ((∃ before u, p.steps = before ++ [(.patch, target)] ∧ (∀ step ∈ before, step.1 = .minor) ∧
            (upgrade r.watched target).exec w =
              (.ok ⟨p.current, target, p.move, p.staging⟩,
                ⟨u, w.calls ++ .observed answer :: RoutineCall.succeeding p.steps⟩)) ∨
          ∃ before step rest e u, p.steps = before ++ step :: rest ∧
            (upgrade r.watched target).exec w =
              (.error e, ⟨u, w.calls ++ .observed answer ::
                (RoutineCall.succeeding before ++ [.ran step (.error e)])⟩)) := by
  refine ⟨shadows_upgrade r target w,
    fun o current goal step => Plan.of_ne_validation o target _, ?_⟩
  obtain ⟨answer, t, hobserve⟩ := exec_observe_watched r w
  have hplan := exec_plan hobserve target
  refine ⟨answer, t, hobserve, hplan, ?_⟩
  rcases hp : answer.bind fun o => Plan.of o target with e | p
  · exact exec_upgrade_of_refusal (hplan.trans (by rw [hp]))
  obtain ⟨o, -, hof⟩ := Results.bind_eq_ok_iff.mp hp
  have hupgrade := exec_upgrade_of_plan (hplan.trans (by rw [hp]))
  refine ⟨Plan.move_entry hof, ?_⟩
  rcases r.exec_runAll_watched p.steps ⟨t, w.calls ++ [.observed answer]⟩ with
    ⟨u, hrun⟩ | ⟨before, step, rest, e, u, hsteps, hrun⟩
  · obtain ⟨before, hbefore, hminor⟩ := Plan.steps_of hof
    refine Or.inl ⟨before, u, hbefore, hminor, ?_⟩
    rw [hupgrade, Act.exec_bind_ok hrun, Act.exec_pure, Plan.report, Plan.target_of hof]
    simp
  · refine Or.inr ⟨before, step, rest, e, u, hsteps, ?_⟩
    rw [hupgrade, Act.exec_bind_error hrun]
    simp

end Governor

end NodeBootstrap
