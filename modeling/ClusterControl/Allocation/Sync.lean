import ClusterControl.State.Basic

/-!
Bringing the routing table in line with the indices and nodes of a state.
-/

namespace ClusterControl

namespace RoutingTable

/-- Puts an active replica on a node of the directory in the place of a primary that was lost, which
is then a replica; without such a replica the primary stays primary. -/
def replacePrimary (t : RoutingTable) (d : Directory) (lost : ShardCopy) : RoutingTable :=
  let heir := (t.copies lost.shard).find? fun c =>
    !c.primary && c.isActive && c.node.any d.contains
  match heir with
  | some c => (t.update c.promote).update lost.demote
  | none => t.update lost

/-- Whether a copy is on a node that is not in the directory. -/
def isStranded (d : Directory) (c : ShardCopy) : Bool :=
  c.node.any fun id => !d.contains id

/-- Whether a copy moves to a node that is not in the directory. -/
def losesTarget (d : Directory) (c : ShardCopy) : Bool :=
  c.target.any fun id => !d.contains id

/-- Takes one copy off the nodes that left. Its value in the table counts: it may have become the
primary since. -/
def settleCopy (d : Directory) (t : RoutingTable) (c : ShardCopy) : RoutingTable :=
  match t.find? c.shard c.number with
  | none => t
  | some c =>
    if !isStranded d c then t.update c.cancelRelocation
    else if c.primary && c.isActive then t.replacePrimary d c.leave
    else t.update c.leave

end RoutingTable

/-- The source of the primaries of a new index. -/
def Index.primarySource (index : Index) : RecoverySource :=
  if index.settings.resizeSource.isSome then .localShards else .emptyStore

/-- The routing table without indices and nodes that are gone and with the indices that are new, and
whether there was anything to do. -/
def ClusterState.syncRouting (s : ClusterState) : RoutingTable × Bool :=
  let routed := s.routing.indexNames
  let gone := routed.toList.filter fun name => !s.indices.contains name
  let new := s.indices.toList.filter fun index => !routed.contains index.name
  let t := gone.foldl RoutingTable.removeIndex s.routing
  let t := new.foldl (fun t index => t.addIndex index index.primarySource) t
  let departed := t.toList.filter fun c =>
    RoutingTable.isStranded s.directory c || RoutingTable.losesTarget s.directory c
  (departed.foldl (RoutingTable.settleCopy s.directory) t,
    !gone.isEmpty || !new.isEmpty || !departed.isEmpty)

end ClusterControl
