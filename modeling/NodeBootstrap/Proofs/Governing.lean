import NodeBootstrap.Proofs.Act
import NodeBootstrap.Proofs.Moves
import NodeBootstrap.Upgrade.Governor

/-!
# What the governor does

* `Routines.run`, `Routines.runAll`: a routine, and the steps of a plan in order;
* `Governor.exec_upgrade_of_refusal`: without a plan nothing is run;
* **`Governor.exec_upgrade_of_plan`**: with a plan its steps are run and nothing else.
-/

namespace NodeBootstrap

variable {σ : Type}

namespace Routines

/-- The routine of a move. -/
def run (r : Routines σ) : Move → Version → Act σ Unit
  | .minor => r.minor
  | .patch => r.patch

/-- Steps in order, up to the first that fails. -/
def runAll (r : Routines σ) : List (Move × Version) → Act σ Unit
  | [] => return ()
  | step :: rest => do
    r.run step.1 step.2
    r.runAll rest

end Routines

namespace Governor

variable {r : Routines σ} {target : Version} {s t : σ} {o : Observation} {p : Plan}
  {e : Failure}

theorem exec_plan_of_error (h : r.observe.exec s = (.error e, t)) :
    (plan r target).exec s = (.error e, t) := by
  rw [plan, Act.exec_bind_error h]

theorem exec_plan_of_ok (h : r.observe.exec s = (.ok o, t)) :
    (plan r target).exec s = (Plan.of o target, t) := by
  rw [plan, Act.exec_bind_ok h, Act.exec_ofExcept]

theorem exec_plan_eq_ok_iff : (plan r target).exec s = (.ok p, t) ↔
    ∃ o, r.observe.exec s = (.ok o, t) ∧ Plan.of o target = .ok p := by
  constructor
  · intro h
    rcases ho : r.observe.exec s with ⟨e | o, u⟩
    · rw [exec_plan_of_error ho] at h
      cases h
    · rw [exec_plan_of_ok ho] at h
      obtain ⟨hp, rfl⟩ := Prod.mk.inj h
      exact ⟨o, rfl, hp⟩
  · rintro ⟨o, ho, hp⟩
    rw [exec_plan_of_ok ho, hp]

/-- Without a plan nothing is run. -/
theorem exec_upgrade_of_refusal (h : (plan r target).exec s = (.error e, t)) :
    (upgrade r target).exec s = (.error e, t) := by
  rw [upgrade, Act.exec_bind_error h]

/-- What follows a plan is its steps: the way to the target ends within its minor line. -/
theorem enterLine_converge (hp : Plan.of o target = .ok p) :
    (do converge r (← enterLine r p) target) = r.runAll p.steps := by
  obtain ⟨move, selection, hmove, -, rfl⟩ := Plan.of_eq_ok_iff.mp hp
  cases move with
  | patch =>
    simp only [enterLine, Plan.stagingOf, Plan.current, pure_bind, converge, hmove]
    simp [Plan.steps, Routines.runAll, Routines.run]
  | minor =>
    simp only [enterLine, Plan.stagingOf, bind_assoc, pure_bind, converge,
      Version.move_minorBase target]
    simp [Plan.steps, Routines.runAll, Routines.run]

/-- **With a plan its steps are run in order, and nothing else.** -/
theorem exec_upgrade_of_plan (h : (plan r target).exec s = (.ok p, t)) :
    (upgrade r target).exec s =
      (do r.runAll p.steps; return p.report : Act σ Report).exec t := by
  obtain ⟨o, -, hp⟩ := exec_plan_eq_ok_iff.mp h
  rw [upgrade, Act.exec_bind_ok h, ← enterLine_converge hp, bind_assoc]

end Governor

end NodeBootstrap
