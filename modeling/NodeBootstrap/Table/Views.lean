import NodeBootstrap.Role
import NodeBootstrap.Table.Grid
import NodeBootstrap.Upgrade.Plan

/-!
# What the operator is shown

* `Plan.view`: the versions of a cluster, the kind of the upgrade and its steps;
* `Failure.rejectionView`: why an upgrade is not allowed;
* `Selection.summaryView`: what was written, and where.
-/

namespace NodeBootstrap

/-- A centred text. -/
def Cell.centered (s : String) : Cell := ⟨s, .center⟩

/-- A text at the left. -/
def Cell.plain (s : String) : Cell := ⟨s, .left⟩

namespace Plan

/-- The versions that the parts of the cluster report. -/
def sourceTable (p : Plan) : Table where
  header := [.plain "SOURCE", .centered "VERSION"]
  rows := [[.plain "kubectl client", .centered p.observed.client.tag],
    [.plain "API server", .centered p.observed.server.tag],
    [.plain "kubeadm-config", .centered p.observed.recorded.tag]]

/-- A numbered step. -/
def stepRow (k : Nat) (step : Move × Version) : List Cell :=
  [.centered (Decimal.render (k + 1)), .plain ("⏳ " ++ step.1.name), .centered step.2.tag]

/-- The steps in order. -/
def stepTable (p : Plan) : Table where
  header := [.centered "STEP", .plain "ROUTINE", .centered "VERSION"]
  rows := (List.range p.steps.length).zipWith stepRow p.steps

/-- The kind of the upgrade in words. -/
def moveText : Move → String
  | .patch => "✓ Patch upgrade"
  | .minor => "⚠ Minor upgrade (staged)"

/-- The plan for a node of some role. -/
def view (p : Plan) (role : Role) : String :=
  "╭─ Upgrade Plan [" ++ role.name ++ " node] ─╮\n" ++ p.sourceTable.render ++ "\nCurrent: " ++
    p.current.tag ++ "  Target: " ++ p.target.tag ++ "  Schema: " ++ p.generation.apiVersion ++
    "\n" ++ moveText p.move ++ "\n" ++ p.stepTable.render ++ "\n"

end Plan

/-- Why an upgrade to a version is not allowed. -/
def Failure.rejectionView (e : Failure) (target : Version) : String :=
  Table.render ⟨[], [[.plain ("✗ Upgrade to " ++ target.tag ++ " rejected")], [.plain e.message]]⟩

/-- What was written for a version, and where. -/
def Selection.summaryView (s : Selection) (path : String) : String :=
  Table.render
    ⟨[.centered "VERSION", .plain "SCHEMA", .plain "ENCRYPTION FLAG", .plain "PATH"],
     [[.centered s.version.tag, .plain s.generation.apiVersion, .plain s.encryptionFlag,
       .plain ("✓ " ++ path)]]⟩

end NodeBootstrap
