import ClusterControl.Routing.Table
import ClusterControl.State.Progress
import ClusterControl.Voting.Exclusion

/-!
The state that a cluster agrees on.
-/

namespace ClusterControl

structure ClusterState where
  version : Nat
  directory : Directory
  coordination : Coordination
  indices : IndexTable
  routing : RoutingTable
  snapshots : List SnapshotEntry
  restores : RestoreTable
  deriving DecidableEq

namespace ClusterState

def initial : ClusterState := ⟨0, .empty, .initial, .empty, .empty, [], .empty⟩

instance : Inhabited ClusterState := ⟨initial⟩

/-- The state of a new cluster of these nodes: every master-eligible one votes. -/
def bootstrap (d : Directory) : ClusterState :=
  let voters := VotingConfiguration.ofNodes d.masterEligible
  { initial with directory := d, coordination := ⟨1, voters, voters, .empty⟩ }

def index? (s : ClusterState) (name : String) : Option Index :=
  s.indices.find? name

/-- Adds an index, or replaces the one of its name. Its shards are routed later. -/
def putIndex (s : ClusterState) (index : Index) : ClusterState :=
  { s with indices := s.indices.insert index }

def deleteIndex (s : ClusterState) (name : String) : ClusterState :=
  { s with indices := s.indices.erase name }

end ClusterState

end ClusterControl
