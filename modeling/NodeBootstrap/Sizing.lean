import NodeBootstrap.Number.Double

/-!
# Memory kept back on a host

A share of a host's memory is kept back for the system and the node agent; the larger the host,
the smaller the share. The share is a product of double-precision numbers, rounded to a whole
number of mebibytes.

* `Sizing.share`: the share of a host by its size;
* `Sizing.reservedMemory`: the quantity for a host with a given number of bytes.
-/

namespace NodeBootstrap

namespace Sizing

/-- The bytes of a mebibyte. -/
def mebibyte : Nat := Nat.pow 2 20

/-- Hosts with more than so many mebibytes keep back so many thousandths; the first line that
applies counts. -/
def shares : List (Nat × Nat) :=
  [(200000, 60), (100000, 76), (50000, 92), (25000, 123), (15000, 166), (7500, 225), (3750, 243),
   (1700, 256), (700, 300), (100, 400)]

/-- The thousandths that a host with so many mebibytes keeps back. -/
def share (mebibytes : Nat) : Nat :=
  ((shares.find? fun s => s.1 < mebibytes).map (·.2)).getD 0

/-- The mebibytes that a host with so many bytes keeps back. -/
def reservedMebibytes (bytes : UInt64) : Nat :=
  let total := bytes.toNat / mebibyte
  ((Double.ofRatio total 1).mul (Double.ofRatio (share total) 1000)).round

/-- The memory kept back on a host with so many bytes, as a quantity. -/
def reservedMemory (bytes : UInt64) : String :=
  Decimal.render (reservedMebibytes bytes) ++ "Mi"

end Sizing

end NodeBootstrap
