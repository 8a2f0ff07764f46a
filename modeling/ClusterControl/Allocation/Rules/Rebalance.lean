import ClusterControl.Allocation.Rule

/-!
Rules on moving copies for balance.
-/

namespace ClusterControl.Rules

/-- A copy is moved for balance only while all copies of its shard are active. -/
def rebalanceOnlyWhenActive : Rule where
  name := "rebalance_only_when_active"
  rebalanceCopy r c :=
    let label := "rebalance_only_when_active"
    if r.routing.allCopiesActive c.shard then
      .allow label "rebalancing is allowed as all copies of this shard are active"
    else
      .refuse label "rebalancing is not allowed until all copies of this shard are active"

/-- The cluster as a whole is balanced only once the shards that its policy names are active. -/
def mayRebalance (r : Round) : Decision :=
  let label := "cluster_rebalance"
  let policy := Choice.name r.settings.allowRebalance
  let setting := s!"[cluster.routing.allocation.allow_rebalance={policy}]"
  let active : Decision := .allow label "all required shards are active"
  match r.settings.allowRebalance with
  | .always => .allow label s!"rebalancing is always allowed, {setting}"
  | .indicesPrimariesActive =>
    if r.routing.allPrimariesActive then active
    else .refuse label s!"the cluster has inactive primary shards and cluster setting {setting}"
  | .indicesAllActive =>
    if r.routing.allActive then active
    else .refuse label s!"the cluster has inactive shards and cluster setting {setting}"

def clusterRebalance : Rule where
  name := "cluster_rebalance"
  rebalanceCopy r _ := mayRebalance r
  rebalance r := mayRebalance r

/-- Only so many copies relocate at a time; a negative limit is none. -/
def concurrentRebalance : Rule where
  name := "concurrent_rebalance"
  rebalanceCopy r _ :=
    let label := "concurrent_rebalance"
    if r.settings.concurrentRebalance < 0 then
      .allow label "unlimited concurrent rebalances are allowed"
    else
      let limit := r.settings.concurrentRebalance.toNat
      let relocating := r.routing.relocatingCount
      if limit ≤ relocating then
        .delay label (s!"reached the limit of concurrently rebalancing shards [{relocating}], " ++
          s!"cluster setting [cluster.routing.allocation.cluster_concurrent_rebalance={limit}]")
      else
        .allow label (s!"below threshold [{limit}] for concurrent rebalances, current rebalance " ++
          s!"shard count [{relocating}]")

end ClusterControl.Rules
