import NodeBootstrap.Act
import NodeBootstrap.Upgrade.Plan

/-!
# Governing an upgrade

The governor decides which routines run, at which versions and in which order. What the routines
do is up to the host.

* `Routines`: what a host offers;
* `Governor.plan`: observes and plans, and changes nothing itself;
* `Governor.upgrade`: carries a plan out.
-/

namespace NodeBootstrap

/-- What a host offers to the governor. -/
structure Routines (σ : Type) where
  /-- The versions that the parts of the cluster report. -/
  observe : Act σ Observation
  /-- The whole way to the first release of the next minor line. -/
  minor : Version → Act σ Unit
  /-- The way to a release of the same minor line. -/
  patch : Version → Act σ Unit

namespace Governor

/-- Observes the cluster and plans the way to a target. -/
def plan (r : Routines σ) (target : Version) : Act σ Plan := do
  let observed ← r.observe
  Act.ofExcept (Plan.of observed target)

/-- Brings a cluster to the target's minor line where it is not there yet, and returns the version
it is then at. -/
def enterLine (r : Routines σ) (p : Plan) : Act σ Version :=
  match p.staging with
  | some v => do
    r.minor v
    return v
  | none => return p.current

/-- Carries a cluster from a release of the target's minor line to the target. -/
def converge (r : Routines σ) (current target : Version) : Act σ Unit := do
  match current.move target with
  | .error e => throw e
  | .ok .patch => r.patch target
  | .ok move => throw (.validation (.notConvergent current target move.name))

/-- Plans the way to a target and carries it out. -/
def upgrade (r : Routines σ) (target : Version) : Act σ Report := do
  let p ← plan r target
  let current ← enterLine r p
  converge r current target
  return p.report

end Governor

end NodeBootstrap
