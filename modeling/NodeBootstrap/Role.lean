import NodeBootstrap.Text.Blank

/-!
# Roles of nodes

* `Role`: what a node is to its cluster;
* `Role.read`: a role by its name, in letters of either case.
-/

namespace NodeBootstrap

/-- What a node is to its cluster. -/
inductive Role where
  | primary
  | controlPlane
  | worker
deriving DecidableEq, Repr, Inhabited

namespace Role

/-- The name of the role. -/
def name : Role → String
  | primary => "primary"
  | controlPlane => "control-plane"
  | worker => "worker"

/-- The name with ASCII letters in lower case. -/
def lowerCase (s : String) : String := String.ofList (s.toList.map Char.toLower)

/-- What is said about an unknown role. -/
def unknownMessage (name : String) : String :=
  "unknown node role '" ++ name ++ "', expected primary, control-plane or worker"

/-- A role by its name, or what is said of a name that is unknown. -/
def read (s : String) : Except String Role :=
  match lowerCase s with
  | "primary" => .ok primary
  | "control-plane" => .ok controlPlane
  | "controlplane" => .ok controlPlane
  | "worker" => .ok worker
  | other => .error (unknownMessage other)

end Role

end NodeBootstrap
