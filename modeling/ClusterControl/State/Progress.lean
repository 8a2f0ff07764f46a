import ClusterControl.Routing.Copy

/-!
Snapshots and restores in progress.
-/

namespace ClusterControl

inductive OperationState
  | running
  | success
  | failure
  deriving DecidableEq, Repr

def OperationState.isCompleted (s : OperationState) : Bool :=
  s ≠ .running

structure SnapshotShard where
  node : NodeId
  state : OperationState
  deriving DecidableEq, Repr

structure SnapshotEntry where
  snapshot : String
  shards : Dictionary ShardId SnapshotShard
  deriving DecidableEq

/-- The first snapshot that still reads the shard from the node. -/
def snapshotting? (entries : List SnapshotEntry) (shard : ShardId) (id : NodeId) : Option String :=
  entries.findSome? fun entry =>
    match entry.shards.get? shard with
    | some s => if !s.state.isCompleted && s.node = id then some entry.snapshot else none
    | none => none

structure RestoreEntry where
  snapshot : String
  shards : Dictionary ShardId OperationState
  deriving DecidableEq

/-- Restores by their unique names. -/
abbrev RestoreTable := Dictionary String RestoreEntry

def RestoreTable.shardState? (restores : RestoreTable) (restore : String) (shard : ShardId) :
    Option OperationState :=
  (restores.get? restore).bind fun entry => entry.shards.get? shard

end ClusterControl
