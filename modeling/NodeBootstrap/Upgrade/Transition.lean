import NodeBootstrap.Failure

/-!
# Moves between versions

A cluster moves forward only, within a minor line or to the next one.

* `Move`: the two kinds of allowed moves;
* `Version.move`: the kind of a move, or why it is not allowed.
-/

namespace NodeBootstrap

/-- How an allowed move reaches its target. -/
inductive Move where
  | patch
  | minor
deriving DecidableEq, Repr, Inhabited

namespace Move

/-- The kind in words. -/
def name : Move → String
  | patch => "patch"
  | minor => "minor"

/-- The largest number of minor lines that one move may span. -/
def minorLimit : UInt64 := 1

end Move

/-- The kind of the move from one version to another, or why it is not allowed. -/
def Version.move (current target : Version) : Except Failure Move :=
  if current.major ≠ target.major then .error (.majorUpgrade current target)
  else if target.minor < current.minor then .error (.downgrade current target)
  else if target.minor = current.minor then
    if target.patch < current.patch then .error (.downgrade current target) else .ok .patch
  else
    let gap := target.minor - current.minor
    if Move.minorLimit < gap then .error (.skewTooLarge current target Move.minorLimit gap)
    else .ok .minor

end NodeBootstrap
