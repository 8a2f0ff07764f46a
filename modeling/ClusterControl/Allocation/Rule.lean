import ClusterControl.Allocation.ClusterInfo
import ClusterControl.Allocation.Decision
import ClusterControl.Settings.Basic
import ClusterControl.State.Basic

/-!
Allocation rules, and the chain that asks them in order: the first refusal wins, then the first
delay; else the answer is yes.
-/

namespace ClusterControl

/-- What rules and allocators see during one round of allocation. -/
structure Round where
  state : ClusterState
  settings : AllocationSettings
  info : ClusterInfo
  routing : RoutingTable
  /-- Whether every rule is asked, to explain the answer. -/
  explain : Bool
  changed : Bool

namespace Round

/-- A round over a state starts from its routing table. -/
def start (state : ClusterState) (settings : AllocationSettings) (info : ClusterInfo) : Round :=
  ⟨state, settings, info, state.routing, false, false⟩

def directory (r : Round) : Directory :=
  r.state.directory

def index? (r : Round) (name : String) : Option Index :=
  r.state.index? name

/-- The index of a copy. -/
def indexOf? (r : Round) (c : ShardCopy) : Option Index :=
  r.index? c.shard.index

/-- Puts the next value of a copy into the table, if it has that copy. -/
def update (r : Round) (c : ShardCopy) : Round :=
  match r.routing.update? c with
  | some routing => { r with routing, changed := true }
  | none => r

/-- Counts as a change, whatever becomes of the table. -/
def touch (r : Round) : Round :=
  { r with changed := true }

end Round

/-- A rule answers four questions. What it has no say in it allows. -/
structure Rule where
  name : String
  allocate : Round → ShardCopy → Node → Decision := fun _ _ _ => .yes
  remain : Round → ShardCopy → Node → Decision := fun _ _ _ => .yes
  rebalanceCopy : Round → ShardCopy → Decision := fun _ _ => .yes
  rebalance : Round → Decision := fun _ => .yes

abbrev Chain := List Rule

namespace Chain

/-- The rules up to the first that refuses, that one included. -/
def untilRefusal (ask : Rule → Decision) : Chain → Chain
  | [] => []
  | rule :: rules => if (ask rule).isNo then [rule] else rule :: untilRefusal ask rules

/-- The rules that a question gets to. -/
def consulted (chain : Chain) (explain : Bool) (ask : Rule → Decision) : Chain :=
  if explain then chain else chain.untilRefusal ask

/-- The answer of rules that are asked in order. -/
def firstObstacle (answers : List Decision) : Decision :=
  ((answers.find? Decision.isNo).orElse fun _ =>
    answers.find? fun d => d.outcome = .throttle).getD .yes

def combine (chain : Chain) (explain : Bool) (ask : Rule → Decision) : Decision :=
  let answers := (chain.consulted explain ask).map ask
  if explain then .multi answers else firstObstacle answers

def canAllocate (chain : Chain) (r : Round) (c : ShardCopy) (node : Node) : Decision :=
  chain.combine r.explain fun rule => rule.allocate r c node

def canRemain (chain : Chain) (r : Round) (c : ShardCopy) (node : Node) : Decision :=
  chain.combine r.explain fun rule => rule.remain r c node

def canRebalanceCopy (chain : Chain) (r : Round) (c : ShardCopy) : Decision :=
  chain.combine r.explain fun rule => rule.rebalanceCopy r c

def canRebalance (chain : Chain) (r : Round) : Decision :=
  chain.combine r.explain fun rule => rule.rebalance r

end Chain

end ClusterControl
