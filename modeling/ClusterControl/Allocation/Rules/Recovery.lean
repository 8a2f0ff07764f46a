import ClusterControl.Allocation.Rule

/-!
Rules on when and from where a copy may recover.
-/

namespace ClusterControl.Rules

/-- A copy that failed too often in a row is not tried again. -/
def maxRetry : Rule where
  name := "max_retry"
  allocate r c _ :=
    match c.info, r.indexOf? c with
    | none, _ => .allow "max_retry" "shard has no previous failures"
    | some _, none => .yes
    | some info, some index =>
      let limit := index.settings.maxRetries
      if limit ≤ info.failures then
        let last := info.message.getD "unknown"
        .refuse "max_retry" (s!"shard has exceeded the maximum number of retries [{limit}] on " ++
          s!"failed allocation attempts, last failure [{last}]")
      else
        .allow "max_retry" (s!"shard has failed allocating [{info.failures}] times but [{limit}] " ++
          "retries are allowed")

/-- The first obstacle to building a shard on a node from these shards of another index. -/
def resizeObstacle? (r : Round) (node : Node) (source : String) : List Nat → Option String
  | [] => none
  | n :: ns =>
    let shard : ShardId := ⟨source, n⟩
    match r.routing.activePrimary? shard with
    | none => some s!"source primary {shard.render} is not active"
    | some primary =>
      if primary.node = some node.id then resizeObstacle? r node source ns
      else some s!"source primary {shard.render} is allocated on another node"

/-- A new primary of a resized index goes where the primaries that it is built from are. -/
def resize : Rule where
  name := "resize"
  allocate r c node :=
    if !c.primary || !c.isUnassigned then .yes
    else match r.indexOf? c with
      | none => .yes
      | some index =>
        match index.settings.resizeSource with
        | none => .yes
        | some name =>
          match r.index? name with
          | none => .refuse "resize" s!"resize source index [{name}] doesn't exist"
          | some source =>
            match resizeObstacle? r node name (index.resizeSourceShards source c.shard.number) with
            | some obstacle => .refuse "resize" obstacle
            | none => .allow "resize" "source primaries are active on this node"

/-- A replica waits until its primary is active. -/
def replicaAfterPrimaryActive : Rule where
  name := "replica_after_primary_active"
  allocate r c _ :=
    let label := "replica_after_primary_active"
    if c.primary then .allow label "shard is primary and can be allocated"
    else if (r.routing.activePrimary? c.shard).isNone then
      .refuse label "primary shard for this replica is not yet active"
    else .allow label "primary shard for this replica is already active"

/-- The node that a copy would be filled from: for a primary the one it is on. -/
def sourceNode? (r : Round) (c : ShardCopy) : Option Node :=
  (if c.primary then c.node else r.routing.primaryNode? c.shard).bind r.directory.find?

/-- Data never goes from a newer node to an older one. -/
def nodeVersion : Rule where
  name := "node_version"
  allocate r c node :=
    match sourceNode? r c with
    | none => .allow "node_version" "no active source copy to recover from"
    | some source =>
      let here := source.version.render
      let there := node.version.render
      if node.version.order source.version = .lt then
        let kind := if c.primary then "primary" else "replica"
        .refuse "node_version" (s!"cannot recover a {kind} shard to a node with version [{there}] " ++
          s!"since this is older than the source node version [{here}]")
      else
        .allow "node_version"
          s!"can recover from node version [{here}] to node version [{there}]"

/-- A primary that does not move and does not copy from a peer. -/
def isInitialPrimary (c : ShardCopy) : Bool :=
  c.primary && c.isUnassigned && c.source ≠ some .peer

/-- The node whose recoveries a copy adds to: its own when it moves, else its primary's. -/
def recoverySourceNode? (r : Round) (c : ShardCopy) : Option NodeId :=
  c.node.orElse fun _ => r.routing.primaryNode? c.shard

/-- A node takes part in a limited number of recoveries at a time. -/
def throttling : Rule where
  name := "throttling"
  allocate r c node :=
    let label := "throttling"
    if isInitialPrimary c then
      let limit := r.settings.initialPrimaries
      let recoveries := r.routing.initialPrimaryRecoveries node.id
      if limit ≤ recoveries then
        .delay label (s!"reached the limit of ongoing initial primary recoveries [{recoveries}], " ++
          s!"cluster setting [cluster.routing.allocation.node_initial_primaries_recoveries={limit}]")
      else .allow label "below primary recovery limit"
    else
      let limit := r.settings.incomingRecoveries
      let incoming := r.routing.incomingRecoveries node.id
      if limit ≤ incoming then
        .delay label (s!"reached the limit of incoming shard recoveries [{incoming}], cluster " ++
          s!"setting [cluster.routing.allocation.node_concurrent_incoming_recoveries={limit}]")
      else match recoverySourceNode? r c with
        | none => .allow label "below shard recovery limit"
        | some source =>
          let limit := r.settings.outgoingRecoveries
          let outgoing := r.routing.outgoingRecoveries source
          if limit ≤ outgoing then
            .delay label (s!"reached the limit of outgoing shard recoveries [{outgoing}] on the " ++
              s!"node [{source}] which holds the source copy, cluster setting " ++
              s!"[cluster.routing.allocation.node_concurrent_outgoing_recoveries={limit}]")
          else .allow label "below shard recovery limit"

end ClusterControl.Rules
