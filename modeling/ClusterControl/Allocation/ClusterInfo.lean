import ClusterControl.Decimal.Text
import ClusterControl.Routing.Copy

/-!
What is known of disks and of the sizes of shards.
-/

namespace ClusterControl

/-- A disk in bytes. -/
structure DiskUsage where
  total : Nat
  free : Nat
  deriving DecidableEq, Repr

namespace DiskUsage

/-- Byte counts stay below this number. -/
def byteLimit : Nat := UInt64.size

/-- A disk with more free than there is has nothing used. -/
def used (d : DiskUsage) : Nat :=
  d.total - d.free

/-- The percentage in use with `extra` bytes more; a disk of no size is full. -/
def percentWith (d : DiskUsage) (extra : Nat) : Float :=
  if d.total = 0 then 100
  else (min (d.used + extra) (byteLimit - 1)).toFloat * 100 / d.total.toFloat

def percent (d : DiskUsage) : Float :=
  d.percentWith 0

end DiskUsage

structure ClusterInfo where
  disks : Dictionary NodeId DiskUsage
  sizes : Dictionary ShardId Nat
  deriving DecidableEq

def ClusterInfo.empty : ClusterInfo := ⟨.empty, .empty⟩

instance : Inhabited ClusterInfo := ⟨.empty⟩

end ClusterControl
