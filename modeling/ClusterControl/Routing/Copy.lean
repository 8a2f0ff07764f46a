import ClusterControl.Topology.Node

/-!
Copies of shards and their life: unassigned, initializing, started, perhaps relocating and started
again elsewhere.
-/

namespace ClusterControl

structure ShardId where
  index : String
  number : Nat
  deriving DecidableEq, Repr

namespace ShardId

/-- Shards are ordered by index, then by number. -/
instance : KeyOrder ShardId :=
  .ofKey (fun s => (s.index, s.number)) fun a b h => by
    cases a
    cases b
    simp_all

def render (s : ShardId) : String :=
  s!"[{s.index}][{s.number}]"

end ShardId

inductive Stage
  | unassigned
  | initializing
  | started
  | relocating
  deriving DecidableEq, Repr

def Stage.name : Stage → String
  | unassigned => "UNASSIGNED"
  | initializing => "INITIALIZING"
  | started => "STARTED"
  | relocating => "RELOCATING"

/-- Where a copy gets its data from. -/
inductive RecoverySource
  | emptyStore
  | existingStore
  | peer
  | snapshot (restore name : String)
  | localShards
  deriving DecidableEq, Repr

inductive UnassignedReason
  | indexCreated
  | newIndexRestored
  | nodeLeft
  | allocationFailed
  | primaryFailed
  deriving DecidableEq, Repr

/-- Why a copy is unassigned, and how often in a row its allocation failed. -/
structure UnassignedInfo where
  reason : UnassignedReason
  failures : Nat
  message : Option String
  deriving DecidableEq, Repr

def UnassignedInfo.fresh (reason : UnassignedReason) : UnassignedInfo :=
  ⟨reason, 0, none⟩

/-- A copy of a shard. Its number is its own within the shard and never changes. -/
structure ShardCopy where
  shard : ShardId
  number : Nat
  primary : Bool
  stage : Stage
  node : Option NodeId
  target : Option NodeId
  source : Option RecoverySource
  info : Option UnassignedInfo
  deriving DecidableEq, Repr

namespace ShardCopy

def fresh (shard : ShardId) (number : Nat) (primary : Bool) (source : RecoverySource)
    (info : UnassignedInfo) : ShardCopy :=
  ⟨shard, number, primary, .unassigned, none, none, some source, some info⟩

/-- Stands for a copy of which only the number is known: a primary that was just created. -/
def placeholder (shard : ShardId) (number : Nat) : ShardCopy :=
  .fresh shard number true .emptyStore (.fresh .indexCreated)

def isUnassigned (c : ShardCopy) : Bool :=
  c.stage = .unassigned

def isInitializing (c : ShardCopy) : Bool :=
  c.stage = .initializing

def isStarted (c : ShardCopy) : Bool :=
  c.stage = .started

def isRelocating (c : ShardCopy) : Bool :=
  c.stage = .relocating

/-- An active copy serves requests. -/
def isActive (c : ShardCopy) : Bool :=
  c.isStarted || c.isRelocating

def isAssigned (c : ShardCopy) : Bool :=
  c.node.isSome

def sameCopy (c d : ShardCopy) : Bool :=
  c.shard = d.shard && c.number = d.number

def isOn (c : ShardCopy) (id : NodeId) : Bool :=
  c.node = some id

def isMovingTo (c : ShardCopy) (id : NodeId) : Bool :=
  c.target = some id

/-- Where the copy is, or will be once it has moved. -/
def destination (c : ShardCopy) : Option NodeId :=
  if c.isRelocating then c.target else c.node

def assign (c : ShardCopy) (id : NodeId) : ShardCopy :=
  { c with stage := .initializing, node := some id, target := none }

/-- A relocating copy starts on its target, any other where it is. -/
def start (c : ShardCopy) : ShardCopy :=
  { c with stage := .started, node := c.destination, target := none, source := none, info := none }

def relocate (c : ShardCopy) (id : NodeId) : ShardCopy :=
  { c with stage := .relocating, target := some id }

/-- Leaves the copy started where it was. -/
def cancelRelocation (c : ShardCopy) : ShardCopy :=
  { c with stage := .started, target := none }

/-- A primary keeps a source that it has not used up, and otherwise recovers from its own store. -/
def unassign (c : ShardCopy) (info : UnassignedInfo) : ShardCopy :=
  let source :=
    if c.primary then
      match c.source with
      | some source => if c.isActive then .existingStore else source
      | none => .existingStore
    else .peer
  { c with
    stage := .unassigned, node := none, target := none, source := some source, info := some info }

def failures (c : ShardCopy) : Nat :=
  (c.info.map UnassignedInfo.failures).getD 0

/-- Unassigns the copy and counts one more failure. -/
def fail (c : ShardCopy) (message : String) : ShardCopy :=
  c.unassign ⟨.allocationFailed, c.failures + 1, some message⟩

/-- Unassigns the copy without counting a failure. -/
def leave (c : ShardCopy) : ShardCopy :=
  c.unassign ⟨.nodeLeft, c.failures, none⟩

def promote (c : ShardCopy) : ShardCopy :=
  { c with primary := true }

/-- An unassigned copy that becomes a replica recovers from the primary. -/
def demote (c : ShardCopy) : ShardCopy :=
  { c with
    primary := false
    source := if c.isUnassigned then some .peer else c.source }

def render (c : ShardCopy) : String :=
  let moving := match c.target with
    | some id => s!"relocating [{id}], "
    | none => ""
  s!"{c.shard.render}, node[" ++ c.node.getD "null" ++ "], " ++ moving ++
    (if c.primary then "[P]" else "[R]") ++ s!", s[{c.stage.name}]"

/-- The copy by shard and number. -/
def label (c : ShardCopy) : String :=
  s!"{c.shard.render}/{c.number}"

end ShardCopy

/-- A change in the life of a copy. -/
inductive Transition
  | assign (id : NodeId)
  | start
  | relocate (id : NodeId)
  | cancelRelocation
  | fail (message : String)
  | leave
  | promote
  | demote
  deriving DecidableEq, Repr

/-- Only an unassigned copy can initialize, and only a started one can relocate. -/
def ShardCopy.transition? (c : ShardCopy) : Transition → Option ShardCopy
  | .assign id => if c.isUnassigned then some (c.assign id) else none
  | .start => some c.start
  | .relocate id => if c.isStarted then some (c.relocate id) else none
  | .cancelRelocation => some c.cancelRelocation
  | .fail message => some (c.fail message)
  | .leave => some c.leave
  | .promote => some c.promote
  | .demote => some c.demote

end ClusterControl
