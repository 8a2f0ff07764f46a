import ClusterControl.Allocation.Balance
import ClusterControl.Allocation.Registry
import ClusterControl.Allocation.Sync

/-!
The allocation service: answers changes in the cluster and reports on shards with the next routing
table.
-/

namespace ClusterControl

structure AllocationService where
  chain : Chain
  allocators : AllocatorRegistry
  info : ClusterInfo

/-- What becomes of a state: it stays, or a new one takes its place. -/
inductive Rerouted
  | unchanged
  | replaced (state : ClusterState)

/-- The state after the reroute of `s`. -/
def Rerouted.stateFrom (s : ClusterState) : Rerouted → ClusterState
  | unchanged => s
  | replaced state => state

/-- How the nodes look to a copy. -/
structure Explanation where
  copy : ShardCopy
  canRemain : Option Decision
  nodes : List (NodeId × Decision)

/-- A report that a copy failed. -/
structure Failure where
  copy : ShardCopy
  message : String

namespace AllocationService

/-- The allocators that come with the cluster. -/
def defaultAllocators : AllocatorRegistry :=
  ⟨AllocatorRegistry.empty.entries.put Settings.balancedAllocator Balance.allocate⟩

/-- A service needs the allocator that the settings name. -/
def create (chain : Chain) (allocators : AllocatorRegistry) (settings : Settings)
    (info : ClusterInfo) : Except AllocationError AllocationService := do
  let _ ← allocators.get settings.allocation.allocator
  return ⟨chain, allocators, info⟩

/-- The service with the rules and the allocator that come with the cluster. -/
def builtin : AllocationService :=
  ⟨Rules.builtin, defaultAllocators, .empty⟩

def withDefaults (settings : Settings) : Except AllocationError AllocationService :=
  create Rules.builtin defaultAllocators settings .empty

/-- Brings the routing table in line with the state and lets the allocator work on it. -/
def reroute (service : AllocationService) (settings : Settings) (s : ClusterState) :
    Except AllocationError Rerouted := do
  let allocator ← service.allocators.get settings.allocation.allocator
  let (routing, synced) := s.syncRouting
  let s := if synced then { s with routing } else s
  let round := allocator service.chain (.start s settings.allocation service.info)
  return if synced || round.changed then .replaced { s with routing := round.routing } else .unchanged

/-- Where a reroute fails the state stays as it is. -/
def rerouteOrKeep (service : AllocationService) (settings : Settings) (s : ClusterState) :
    Rerouted :=
  (service.reroute settings s).toOption.getD .unchanged

/-- The state after an update, in line with the routing. -/
def reconcile (service : AllocationService) (settings : Settings) (s : ClusterState) :
    ClusterState :=
  (service.rerouteOrKeep settings s).stateFrom s

/-- The value that the table has for a reported copy. -/
def lookup (t : RoutingTable) (c : ShardCopy) : Except AllocationError ShardCopy :=
  match t.find? c.shard c.number with
  | some current => .ok current
  | none => .error (.unknownShard c.render)

/-- A copy that does not recover is left as it is. -/
def applyStart (t : RoutingTable) (c : ShardCopy) : Except AllocationError RoutingTable := do
  let current ← lookup t c
  return if current.isInitializing || current.isRelocating then t.update current.start else t

/-- A failed move leaves the copy where it was, a failed recovery is counted, and a started copy is
replaced by a replica if it was the primary. -/
def applyFailure (d : Directory) (t : RoutingTable) (failure : Failure) :
    Except AllocationError RoutingTable := do
  let current ← lookup t failure.copy
  return match current.stage with
    | .relocating => t.update current.cancelRelocation
    | .initializing => t.update (current.fail failure.message)
    | .started =>
      let failed := current.fail failure.message
      if current.primary then t.replacePrimary d failed else t.update failed
    | .unassigned => t

def applyStarted (service : AllocationService) (settings : Settings) (s : ClusterState)
    (started : List ShardCopy) : Except AllocationError ClusterState := do
  let routing ← started.foldlM applyStart s.routing
  let s := { s with routing }
  return (← service.reroute settings s).stateFrom s

def applyFailed (service : AllocationService) (settings : Settings) (s : ClusterState)
    (failed : List Failure) : Except AllocationError ClusterState := do
  let routing ← failed.foldlM (applyFailure s.directory) s.routing
  let s := { s with routing }
  return (← service.reroute settings s).stateFrom s

/-- Every rule's answer on a copy, for the node it is on and for every data node. -/
def explain (service : AllocationService) (settings : Settings) (s : ClusterState)
    (shard : ShardId) (number : Nat) : Except AllocationError Explanation :=
  match s.routing.find? shard number with
  | none => .error (.unknownShard s!"{shard.render} copy [{number}]")
  | some c =>
    let round := { Round.start s settings.allocation service.info with explain := true }
    .ok {
      copy := c
      canRemain := (c.node.bind s.directory.find?).map fun node =>
        service.chain.canRemain round c node
      nodes := s.directory.dataNodes.map fun node =>
        (node.id, service.chain.canAllocate round c node) }

end AllocationService

end ClusterControl
