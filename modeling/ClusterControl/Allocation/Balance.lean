import ClusterControl.Allocation.Rule

/-!
The balanced allocator. The weight of a node for an index says how far its number of shards, and its
number of shards of that index, are from the average; copies go to the lightest node that the rules
allow, and move from the heaviest one while the difference exceeds a threshold.
-/

namespace ClusterControl.Balance

/-- The shares of the two numbers in a weight; none where nothing weighs. -/
def shares? (b : BalanceSettings) : Option (Float × Float) :=
  let sum := b.shard + b.index
  if 0 < sum then some (b.shard / sum, b.index / sum) else none

/-- A data node with its weight. -/
structure Weighed where
  weight : Float
  node : Node

/-- Lighter nodes come first, and of equally heavy ones the one with the lower id. -/
def Weighed.notAfter (a b : Weighed) : Bool :=
  Double.rank a.weight < Double.rank b.weight ||
    (Double.rank a.weight = Double.rank b.weight && !KeyOrder.before b.node.id a.node.id)

/-- The weight of a node for an index, with the averages over `nodes` data nodes. -/
def weight (r : Round) (index : String) (nodes : Nat) (id : NodeId) : Float :=
  let (shardShare, indexShare) := (shares? r.settings.balance).getD (0.5, 0.5)
  let all := r.routing.toList
  let ofIndex := r.routing.indexCopies index
  let count (copies : List ShardCopy) : Float :=
    (copies.countP fun c => c.destination = some id).toFloat
  let average (copies : List ShardCopy) : Float := copies.length.toFloat / nodes.toFloat
  Double.fusedSum shardShare (count all - average all)
    (indexShare * (count ofIndex - average ofIndex))

/-- The data nodes from light to heavy. -/
def nodesByWeight (r : Round) (index : String) : List Weighed :=
  let nodes := r.directory.dataNodes
  (nodes.map fun node => ⟨weight r index nodes.length node.id, node⟩).mergeSort Weighed.notAfter

/-- Moves a started copy that may not stay to the lightest other node that takes it. -/
def moveCopy (chain : Chain) (r : Round) (c : ShardCopy) : Round :=
  match c.node.bind r.directory.find? with
  | none => r
  | some node =>
    if !(chain.canRemain r c node).isNo then r
    else
      let target := (nodesByWeight r c.shard.index).find? fun w =>
        w.node.id ≠ node.id && (chain.canAllocate r c w.node).isYes
      match target with
      | some w => r.update (c.relocate w.node.id)
      | none => r

def moveCopies (chain : Chain) (r : Round) : Round :=
  (r.routing.toList.filter ShardCopy.isStarted).foldl (moveCopy chain) r

/-- Assigns an unassigned copy to the lightest node that takes it. -/
def assignCopy (chain : Chain) (r : Round) (c : ShardCopy) : Round :=
  match (nodesByWeight r c.shard.index).find? fun w => (chain.canAllocate r c w.node).isYes with
  | some w => r.update (c.assign w.node.id)
  | none => r

def assignCopies (chain : Chain) (r : Round) : Round :=
  r.routing.unassigned.foldl (assignCopy chain) r

/-- A copy of the index on the heaviest node and a node light enough to take it: the lightest node
for which there is a copy, and the first such copy. -/
def relocation? (chain : Chain) (r : Round) (index : String) (step : Float) :
    Option (ShardCopy × Node) :=
  let nodes := nodesByWeight r index
  nodes.getLast?.bind fun heavy =>
    let candidates := (r.routing.indexCopies index).filter fun c =>
      c.isStarted && c.isOn heavy.node.id
    let light := nodes.takeWhile fun w =>
      let difference := heavy.weight - w.weight
      r.settings.balance.threshold < difference && step < difference
    light.findSome? fun w =>
      let copy := candidates.find? fun c =>
        (chain.canRebalanceCopy r c).isYes && (chain.canAllocate r c w.node).isYes
      copy.map fun c => (c, w.node)

/-- At most `moves` relocations of copies of an index, one after another. -/
def rebalanceIndex (chain : Chain) (step : Float) (index : String) : Nat → Round → Round
  | 0, r => r
  | moves + 1, r =>
    match relocation? chain r index step with
    | some (c, node) =>
      rebalanceIndex chain step index moves (r.update (c.relocate node.id))
    | none => r

/-- Balances index after index, each with as many moves as it has copies. -/
def rebalance (chain : Chain) (r : Round) : Round :=
  if !(chain.canRebalance r).isYes then r
  else match shares? r.settings.balance with
    | none => r
    | some (shardShare, indexShare) =>
      r.routing.indexNames.toList.foldl
        (fun r index =>
          rebalanceIndex chain (shardShare + indexShare) index (r.routing.indexCopies index).length r)
        r

/-- Moves what may not stay, assigns what is unassigned, and then balances. -/
def allocate (chain : Chain) (r : Round) : Round :=
  if r.directory.dataNodes.isEmpty then r
  else rebalance chain (assignCopies chain (moveCopies chain r))

end ClusterControl.Balance
