import ClusterControl.Routing.Copy
import ClusterControl.State.Index

/-!
The routing table: the copies of every shard, and what is counted over them.
-/

namespace ClusterControl

structure RoutingTable where
  shards : Dictionary ShardId (List ShardCopy)
  deriving DecidableEq

namespace RoutingTable

def empty : RoutingTable := ⟨.empty⟩

instance : Inhabited RoutingTable := ⟨empty⟩

/-- The unassigned copies of a shard of a new index; the first one is the primary. -/
def freshCopies (shard : ShardId) (replicas : Nat) (source : RecoverySource) : List ShardCopy :=
  let reason : UnassignedReason := match source with
    | .snapshot _ _ => .newIndexRestored
    | _ => .indexCreated
  .fresh shard 0 true source (.fresh reason) ::
    (List.range replicas).map fun i => .fresh shard (i + 1) false .peer (.fresh reason)

/-- Adds every shard of a new index. -/
def addIndex (t : RoutingTable) (index : Index) (source : RecoverySource) : RoutingTable :=
  ⟨(List.range index.shards).foldl
    (fun shards n =>
      let shard : ShardId := ⟨index.name, n⟩
      shards.put shard (freshCopies shard index.replicas source))
    t.shards⟩

def removeIndex (t : RoutingTable) (index : String) : RoutingTable :=
  ⟨t.shards.filter fun entry => entry.1.index ≠ index⟩

def shardIds (t : RoutingTable) : List ShardId :=
  t.shards.keys

/-- The names of the indices with shards in the table, in order. -/
def indexNames (t : RoutingTable) : SortedSet String :=
  .ofList (t.shardIds.map ShardId.index)

/-- All copies, shard by shard. -/
def toList (t : RoutingTable) : List ShardCopy :=
  t.shards.values.flatten

def copies (t : RoutingTable) (shard : ShardId) : List ShardCopy :=
  (t.shards.get? shard).getD []

def find? (t : RoutingTable) (shard : ShardId) (number : Nat) : Option ShardCopy :=
  (t.copies shard).find? fun c => c.number = number

/-- Replaces the first copy that is the same as `c`. -/
def replaceFirst (c : ShardCopy) : List ShardCopy → List ShardCopy
  | [] => []
  | d :: ds => if d.sameCopy c then c :: ds else d :: replaceFirst c ds

/-- The table with the next value of a copy, if it has that copy. -/
def update? (t : RoutingTable) (c : ShardCopy) : Option RoutingTable :=
  if (t.copies c.shard).any (·.sameCopy c) then
    some ⟨t.shards.adjust c.shard (replaceFirst c)⟩
  else none

def update (t : RoutingTable) (c : ShardCopy) : RoutingTable :=
  (t.update? c).getD t

/-- What becomes of a transition: the copy is not there, it cannot make it, or it does. -/
inductive Changed
  | missing
  | refused
  | made (t : RoutingTable)

/-- Lets a copy of the table make a transition. -/
def transition (t : RoutingTable) (shard : ShardId) (number : Nat) (e : Transition) : Changed :=
  match t.find? shard number with
  | none => .missing
  | some c =>
    match c.transition? e with
    | none => .refused
    | some c => .made (t.update c)

def Changed.tableFrom (t : RoutingTable) : Changed → RoutingTable
  | made t => t
  | missing | refused => t

def indexCopies (t : RoutingTable) (index : String) : List ShardCopy :=
  t.toList.filter fun c => c.shard.index = index

def primary? (t : RoutingTable) (shard : ShardId) : Option ShardCopy :=
  (t.copies shard).find? ShardCopy.primary

def activePrimary? (t : RoutingTable) (shard : ShardId) : Option ShardCopy :=
  (t.primary? shard).filter ShardCopy.isActive

/-- The node of the active primary. -/
def primaryNode? (t : RoutingTable) (shard : ShardId) : Option NodeId :=
  (t.activePrimary? shard).bind ShardCopy.node

def onNode (t : RoutingTable) (id : NodeId) : List ShardCopy :=
  t.toList.filter (·.isOn id)

/-- The copies on a node and those on their way to it. -/
def onOrMovingTo (t : RoutingTable) (id : NodeId) : List ShardCopy :=
  t.toList.filter fun c => c.isOn id || c.isMovingTo id

/-- The unassigned copies, primaries first. -/
def unassigned (t : RoutingTable) : List ShardCopy :=
  let copies := t.toList.filter ShardCopy.isUnassigned
  copies.filter ShardCopy.primary ++ copies.filter fun c => !c.primary

/-- The nodes that hold a copy of the shard or receive one. -/
def holders (t : RoutingTable) (shard : ShardId) : SortedSet NodeId :=
  .ofList ((t.copies shard).flatMap fun c => c.node.toList ++ c.target.toList)

def relocatingCount (t : RoutingTable) : Nat :=
  t.toList.countP ShardCopy.isRelocating

/-- Recoveries from another copy into a node: replicas that initialize there and copies that move
there. -/
def incomingRecoveries (t : RoutingTable) (id : NodeId) : Nat :=
  t.toList.countP fun c =>
    (c.isInitializing && !c.primary && c.isOn id) || (c.isRelocating && c.isMovingTo id)

/-- Recoveries that draw on a node: copies that move away from it, and replicas that initialize
from a primary on it. -/
def outgoingRecoveries (t : RoutingTable) (id : NodeId) : Nat :=
  t.toList.countP fun c =>
    if c.isRelocating then c.isOn id
    else c.isInitializing && !c.primary && t.primaryNode? c.shard = some id

/-- Primaries that initialize on a node from elsewhere than another copy. -/
def initialPrimaryRecoveries (t : RoutingTable) (id : NodeId) : Nat :=
  t.toList.countP fun c =>
    c.isInitializing && c.primary && c.isOn id && c.source.isSome && c.source ≠ some .peer

def allCopiesActive (t : RoutingTable) (shard : ShardId) : Bool :=
  (t.copies shard).all ShardCopy.isActive

def allPrimariesActive (t : RoutingTable) : Bool :=
  t.toList.all fun c => !c.primary || c.isActive

def allActive (t : RoutingTable) : Bool :=
  t.toList.all ShardCopy.isActive

end RoutingTable

end ClusterControl
