import ClusterControl.Allocation.Rule

/-!
Rules that mind snapshots and restores in progress.
-/

namespace ClusterControl.Rules

/-- A copy that is being snapshotted is not moved. -/
def snapshotInProgress : Rule where
  name := "snapshot_in_progress"
  allocate r c _ :=
    let label := "snapshot_in_progress"
    match c.node with
    | none => .allow label "the shard is not being moved"
    | some id =>
      match snapshotting? r.state.snapshots c.shard id with
      | none => .allow label "the shard is not being snapshotted"
      | some snapshot =>
        .delay label (s!"waiting for snapshot [{snapshot}] of shard {c.shard.render} to complete " ++
          s!"on node [{id}]")

/-- A primary is restored only while its restore is in progress and has not failed. -/
def restoreInProgress : Rule where
  name := "restore_in_progress"
  allocate r c _ :=
    let label := "restore_in_progress"
    match c.source with
    | some (.snapshot restore snapshot) =>
      if !c.primary then .yes
      else match r.state.restores.shardState? restore c.shard with
        | some .failure =>
          .refuse label (s!"shard has failed to be restored from the snapshot [{snapshot}], " ++
            "manually close or delete the index to retry")
        | some _ => .allow label "shard is currently being restored"
        | none =>
          .refuse label (s!"shard was restored from the snapshot [{snapshot}] by restore " ++
            s!"[{restore}] which is no longer in progress")
    | _ => .allow label "ignored as shard is not being recovered from a snapshot"

end ClusterControl.Rules
