import ClusterControl.Document.Allocation

/-!
Reports: short forms of what goes on in a cluster, for those who watch it.
-/

namespace ClusterControl.Report

def texts (ts : List String) : Document :=
  .list (ts.map .text)

def optional (t : Option String) : Document :=
  ClusterControl.toDocument t

def nodeIds (nodes : List Node) : Document :=
  texts (nodes.map Node.id)

def nodes (nodes : List Node) : Document :=
  texts (nodes.map Node.render)

def directory (d : Directory) : Document :=
  .record [("nodes", nodes d.toList), ("local", optional d.localId),
    ("master", optional d.masterId), ("local_name", optional (d.localNode?.map Node.name)),
    ("master_name", optional (d.masterNode?.map Node.name)), ("len", .nat d.nodes.size),
    ("empty", .bool d.nodes.isEmpty)]

/-- A copy by its number, with where it is, what it recovers from and why it is not assigned. -/
def copy (c : ShardCopy) : Document :=
  .list [.nat c.number, .text c.render, toDocument c.source,
    match c.info with
    | none => .null
    | some i => .list [toDocument i.reason, .nat i.failures, optional i.message]]

def copies (cs : List ShardCopy) : Document :=
  .list (cs.map copy)

def table (t : RoutingTable) : Document :=
  copies t.toList

def labels (cs : List ShardCopy) : Document :=
  texts (cs.map ShardCopy.label)

/-- What the table holds for a node. -/
def nodeShare (t : RoutingTable) (id : NodeId) : Document :=
  .list [.text id, labels (t.onNode id), labels (t.onOrMovingTo id),
    .nat (t.incomingRecoveries id), .nat (t.outgoingRecoveries id),
    .nat (t.initialPrimaryRecoveries id)]

def shard (t : RoutingTable) (id : ShardId) : Document :=
  let number (c : Option ShardCopy) : Document := Documented.ofNumber (c.map ShardCopy.number)
  .list [.text id.render, number (t.primary? id), number (t.activePrimary? id),
    texts (t.holders id).toList, .bool (t.allCopiesActive id)]

/-- The counts of a table, for these nodes and all shards. -/
def summary (t : RoutingTable) (ids : List NodeId) : Document :=
  .record [("nodes", .list (ids.map (nodeShare t))), ("shards", .list (t.shardIds.map (shard t))),
    ("unassigned", labels t.unassigned), ("relocating", .nat t.relocatingCount),
    ("primaries_active", .bool t.allPrimariesActive), ("all_active", .bool t.allActive)]

def flags (c : ShardCopy) : Document :=
  .list ([c.primary, c.isUnassigned, c.isInitializing, c.isStarted, c.isRelocating, c.isActive,
    c.isAssigned].map Document.bool ++ [.text c.stage.name])

def nodeFilter (f : NodeFilter) : Document :=
  .list (f.rules.toList.map fun (key, patterns) => .list [.text key, texts patterns])

/-- Computed numbers are reported as texts. -/
def float (x : Float) : Document :=
  .text (Decimal.plain x)

def choice {α : Type} [Choice α] (a : α) : Document :=
  .text (Choice.name a)

def settings (s : Settings) : Document :=
  let a := s.allocation
  .record [("max_voting_config_exclusions", .nat s.maxVotingExclusions),
    ("enable", choice a.enable), ("rebalance_enable", choice a.rebalanceEnable),
    ("allow_rebalance", choice a.allowRebalance),
    ("cluster_concurrent_rebalance", .int a.concurrentRebalance),
    ("incoming", .nat a.incomingRecoveries), ("outgoing", .nat a.outgoingRecoveries),
    ("initial_primaries", .nat a.initialPrimaries),
    ("disk", .list [.bool a.disk.thresholdEnabled, float a.disk.low, float a.disk.high]),
    ("awareness", texts a.awareness),
    ("total_shards_per_node", Documented.ofNumber a.totalShardsPerNode),
    ("require", nodeFilter a.filters.required), ("include", nodeFilter a.filters.included),
    ("exclude", nodeFilter a.filters.excluded), ("no_filters", .bool a.filters.isEmpty),
    ("allocator", .text a.allocator),
    ("balance", .list [float a.balance.shard, float a.balance.index, float a.balance.threshold])]

/-- The outcome of a decision and its text, and the number of parts if it has several. -/
def decision (d : Decision) : List (String × Document) :=
  [("o", .text d.outcome.name), ("t", .text d.render)] ++
    match d with
    | .multi parts => [("n", .nat parts.length)]
    | .single _ _ _ => []

def index (i : Index) : Document :=
  .list [.text i.name, .nat i.shards, .nat i.replicas, toDocument i.settings]

def state (s : ClusterState) : Document :=
  let c := s.coordination
  .record [("version", .nat s.version), ("indices", .list (s.indices.toList.map index)),
    ("nodes", nodes s.directory.toList), ("shards", .nat s.routing.toList.length),
    ("term", .nat c.term), ("accepted", .text c.accepted.render),
    ("committed", .text c.committed.render),
    ("exclusions", .text (Exclusion.renderList c.exclusions.toList))]

end ClusterControl.Report
