import NodeBootstrap.Command.Basic
import NodeBootstrap.Failure

/-!
# Package managers

* `PackageManager`: the supported ones, in the order in which a host is searched for them;
* `PackageManager.detect`: the first one that a host has;
* `PackageManager.install`: installs packages at one version.
-/

namespace NodeBootstrap

/-- A supported package manager. -/
inductive PackageManager where
  | dnf
  | yum
  | aptGet
deriving DecidableEq, Repr, Inhabited

namespace PackageManager

/-- The package managers in the order in which a host is searched for them. -/
def candidates : List PackageManager := [dnf, yum, aptGet]

/-- The program of a package manager. -/
def program : PackageManager → String
  | dnf => "dnf"
  | yum => "yum"
  | aptGet => "apt-get"

/-- The first package manager whose program a host has. -/
def detect (available : String → Bool) : Except Failure PackageManager :=
  match candidates.find? fun m => available m.program with
  | some m => .ok m
  | none => .error (.config .noPackageManagerFound)

/-- A package at a version. -/
def pinned (m : PackageManager) (package : String) (version : Version) : String :=
  match m with
  | aptGet => package ++ "=" ++ version.text ++ "-00"
  | _ => package ++ "-" ++ version.text

/-- Installs packages at one version. -/
def install (m : PackageManager) (packages : List String) (version : Version) : Command :=
  let switches := match m with
    | aptGet => ["--allow-downgrades"]
    | _ => []
  ⟨m.program, ["install", "-y"] ++ switches ++ packages.map fun p => m.pinned p version, [], false⟩

/-- The packages of a node. -/
def nodePackages : List String := ["kubeadm", "kubelet", "kubectl"]

end PackageManager

end NodeBootstrap
