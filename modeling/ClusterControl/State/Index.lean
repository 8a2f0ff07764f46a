import ClusterControl.Settings.Choice
import ClusterControl.Settings.Filter

/-!
Indices: their shards, replicas and settings, and which shards of a source an index made by
resizing draws on.
-/

namespace ClusterControl

/-- What an index sets for itself; an absent value leaves the choice to the cluster. -/
structure IndexSettings where
  filters : AllocationFilters
  totalShardsPerNode : Option Nat
  maxRetries : Nat
  enable : Option EnableAllocation
  rebalanceEnable : Option EnableRebalance
  resizeSource : Option String
  deriving DecidableEq

def IndexSettings.initial : IndexSettings := ⟨.empty, none, 5, none, none, none⟩

structure Index where
  name : String
  shards : Nat
  replicas : Nat
  settings : IndexSettings
  deriving DecidableEq

namespace Index

/-- The shards of `source` that make up a shard of an index resized from it: a run of them when the
index has no more shards than the source, else the one it is a part of. -/
def resizeSourceShards (target source : Index) (shard : Nat) : List Nat :=
  let targetShards := max target.shards 1
  let sourceShards := max source.shards 1
  if targetShards ≤ sourceShards then
    let factor := sourceShards / targetShards
    List.range' (shard * factor) factor
  else [shard / (targetShards / sourceShards)]

end Index

/-- Indices in the order of their names. -/
abbrev IndexTable := SortedBy Index.name

end ClusterControl
