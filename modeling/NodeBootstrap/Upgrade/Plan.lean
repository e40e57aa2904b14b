import NodeBootstrap.Upgrade.Transition

/-!
# Plans

A plan says which versions an upgrade passes through. A move to the next minor line first goes to
the first release of that line and then on to the target.

* `Observation`: the versions that the parts of a cluster report;
* `Plan`, `Plan.of`: a plan, and the plan for an observation and a target;
* `Plan.steps`: the versions to run at, in order;
* `Report`: what a finished upgrade did.
-/

namespace NodeBootstrap

/-- The versions that the parts of a cluster report: the command line client, the running server
and the stored configuration. -/
structure Observation where
  client : Version
  server : Version
  recorded : Version
deriving DecidableEq, Repr, Inhabited

/-- The version a cluster counts as running: the lower one of the server and the record, so that
an upgrade that ended half-way is finished first. -/
def Observation.current (o : Observation) : Version :=
  if o.recorded < o.server then o.recorded else o.server

/-- How an upgrade will proceed. -/
structure Plan where
  observed : Observation
  target : Version
  move : Move
  staging : Option Version
  generation : Generation
deriving DecidableEq, Repr

namespace Plan

/-- The version that the plan starts from. -/
def current (p : Plan) : Version := p.observed.current

/-- The release at which a move enters the target's minor line. -/
def stagingOf (target : Version) : Move → Option Version
  | .minor => some target.minorBase
  | .patch => none

/-- The plan for an observation and a target. -/
def of (observed : Observation) (target : Version) : Except Failure Plan := do
  let move ← observed.current.move target
  let selection ← Selection.of target
  return ⟨observed, target, move, stagingOf target move, selection.generation⟩

/-- The routines of the plan and the versions they run at, in order. -/
def steps (p : Plan) : List (Move × Version) :=
  (p.staging.map fun v => (Move.minor, v)).toList ++ [(.patch, p.target)]

end Plan

/-- What a finished upgrade did. -/
structure Report where
  start : Version
  target : Version
  move : Move
  staging : Option Version
deriving DecidableEq, Repr

/-- The report of a plan that has been carried out. -/
def Plan.report (p : Plan) : Report := ⟨p.current, p.target, p.move, p.staging⟩

end NodeBootstrap
