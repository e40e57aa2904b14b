import NodeBootstrap.Text.Decimal

/-!
# Release versions

A release is named by three numbers; anything a source appends to them is dropped on reading.

* `Version`: the numbers, ordered by major, then minor, then patch;
* `Version.text`, `Version.tag`: `1.16.3` and `v1.16.3`;
* `Version.minorBase`: the first patch release of the same minor line.
-/

namespace NodeBootstrap

/-- A release version. -/
structure Version where
  major : UInt64
  minor : UInt64
  patch : UInt64
deriving DecidableEq, Repr, Inhabited

namespace Version

/-- Major numbers decide, then minor numbers, then patch numbers. -/
instance : Ord Version where
  compare a b :=
    (compare a.major b.major).then ((compare a.minor b.minor).then (compare a.patch b.patch))

instance : LT Version := ltOfOrd
instance : LE Version := leOfOrd

/-- The three numbers with dots between them. -/
def chars (v : Version) : List Char :=
  Decimal.digits v.major.toNat ++ '.' :: Decimal.digits v.minor.toNat ++
    '.' :: Decimal.digits v.patch.toNat

/-- The three numbers with dots between them. -/
def text (v : Version) : String := String.ofList v.chars

/-- The spelling with a leading `v` that flags and recorded configurations use. -/
def tag (v : Version) : String := String.ofList ('v' :: v.chars)

/-- The first patch release of the same minor line. -/
def minorBase (v : Version) : Version := { v with patch := 0 }

instance : ToString Version := ⟨text⟩

end Version

end NodeBootstrap
