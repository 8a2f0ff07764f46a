import ClusterControl.Allocation.Rule

/-!
The rule that keeps disks from filling up.
-/

namespace ClusterControl.Rules

/-- Above the low watermark a node takes only new primaries, above the high one nothing; and no copy
may take it there. -/
def diskThreshold : Rule where
  name := "disk_threshold"
  allocate r c node :=
    let label := "disk_threshold"
    let disk := r.settings.disk
    if !disk.thresholdEnabled then .allow label "the disk threshold decider is disabled"
    else match r.info.disks.get? node.id with
      | none => .allow label "disk usages are unavailable"
      | some usage =>
        let used := usage.percent
        let shown := Decimal.onePlace used
        let low := Decimal.plain disk.low
        let high := Decimal.plain disk.high
        let isNew := c.primary && c.isUnassigned && c.source = some .emptyStore
        if disk.high ≤ used then
          .refuse label (s!"the node is above the high watermark [{high}%], having [{shown}%] " ++
            "used disk")
        else if disk.low ≤ used ∧ !isNew then
          .refuse label (s!"the node is above the low watermark [{low}%], having [{shown}%] " ++
            "used disk")
        else
          let after := usage.percentWith ((r.info.sizes.get? c.shard).getD 0)
          if disk.high ≤ after then
            let shownAfter := Decimal.onePlace after
            .refuse label ("allocating the shard to this node will bring the node above the high " ++
              s!"watermark [{high}%], [{shownAfter}%] would be used")
          else .allow label s!"enough disk for shard on node, [{shown}%] used"
  remain r _ node :=
    let label := "disk_threshold"
    let disk := r.settings.disk
    if !disk.thresholdEnabled then .allow label "the disk threshold decider is disabled"
    else match r.info.disks.get? node.id with
      | none => .allow label "disk usages are unavailable"
      | some usage =>
        let used := usage.percent
        if disk.high ≤ used then
          let high := Decimal.plain disk.high
          let shown := Decimal.onePlace used
          .refuse label ("the shard cannot remain on this node because it is above the high " ++
            s!"watermark [{high}%], having [{shown}%] used disk")
        else .allow label "there is enough disk on this node for the shard to remain"

end ClusterControl.Rules
