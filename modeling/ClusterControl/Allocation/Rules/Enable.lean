import ClusterControl.Allocation.Rule

/-!
The rule that switches allocation and rebalancing on and off; what an index sets wins over what the
cluster sets.
-/

namespace ClusterControl.Rules

/-- The value in force, with the setting that it comes from. -/
def inForce {α : Type} [Choice α] (own : Option α) (cluster : α) (area : String) : α × String :=
  match own with
  | some value => (value, s!"index setting [index.routing.{area}.enable={Choice.name value}]")
  | none => (cluster, s!"cluster setting [cluster.routing.{area}.enable={Choice.name cluster}]")

/-- A primary of a new index, which has no data yet. -/
def isNewPrimary (c : ShardCopy) : Bool :=
  c.primary && c.isUnassigned && (c.source = some .emptyStore || c.source = some .localShards)

def enable : Rule where
  name := "enable"
  allocate r c _ :=
    let own := (r.indexOf? c).bind fun index => index.settings.enable
    match inForce own r.settings.enable "allocation" with
    | (.all, _) => .allow "enable" "all allocations are allowed"
    | (.none, setting) => .refuse "enable" s!"no allocations are allowed due to {setting}"
    | (.newPrimaries, setting) =>
      if isNewPrimary c then .allow "enable" "new primary allocations are allowed"
      else .refuse "enable" s!"non-new primary allocations are forbidden due to {setting}"
    | (.primaries, setting) =>
      if c.primary then .allow "enable" "primary allocations are allowed"
      else .refuse "enable" s!"replica allocations are forbidden due to {setting}"
  rebalanceCopy r c :=
    let own := (r.indexOf? c).bind fun index => index.settings.rebalanceEnable
    let (value, setting) := inForce own r.settings.rebalanceEnable "rebalance"
    let allowed := match value with
      | .all => true
      | .none => false
      | .primaries => c.primary
      | .replicas => !c.primary
    if allowed then .allow "enable" s!"rebalancing is allowed by {setting}"
    else .refuse "enable" s!"rebalancing is forbidden for this shard due to {setting}"

end ClusterControl.Rules
