import ClusterControl.Allocation.Rules.Disk
import ClusterControl.Allocation.Rules.Enable
import ClusterControl.Allocation.Rules.Operation
import ClusterControl.Allocation.Rules.Placement
import ClusterControl.Allocation.Rules.Rebalance
import ClusterControl.Allocation.Rules.Recovery
import ClusterControl.Text.Quoted

/-!
The rules and allocators that a cluster is set up with.
-/

namespace ClusterControl

inductive AllocationError
  | duplicateRule (name : String)
  | duplicateAllocator (name : String)
  | unknownAllocator (name : String)
  | unknownShard (shard : String)
  deriving DecidableEq, Repr

def AllocationError.message : AllocationError → String
  | duplicateRule name => s!"cannot specify allocation decider [{name}] twice"
  | duplicateAllocator name => s!"shards allocator [{name}] is already registered"
  | unknownAllocator name => s!"unknown shards allocator [{name}]"
  | unknownShard shard => s!"unknown shard {shard}"

/-- The rules that come with the cluster, in the order in which they are asked. -/
def Rules.builtin : Chain :=
  [Rules.maxRetry, Rules.resize, Rules.replicaAfterPrimaryActive, Rules.rebalanceOnlyWhenActive,
    Rules.clusterRebalance, Rules.concurrentRebalance, Rules.enable, Rules.nodeVersion,
    Rules.snapshotInProgress, Rules.restoreInProgress, Rules.filter, Rules.sameShard,
    Rules.diskThreshold, Rules.throttling, Rules.shardsLimit, Rules.awareness]

/-- The rule of that name that comes with the cluster. -/
def Rules.builtin? (name : String) : Option Rule :=
  Rules.builtin.find? fun rule => rule.name = name

/-- Rules in the order in which they are asked, each with the kind that may occur once. -/
structure RuleRegistry where
  entries : List (String × Rule)

namespace RuleRegistry

def empty : RuleRegistry := ⟨[]⟩

/-- The rules that come with the cluster are kinds of their own. -/
def ofBuiltin : RuleRegistry :=
  ⟨Rules.builtin.map fun rule => (rule.name, rule)⟩

def register (registry : RuleRegistry) (kind : String) (rule : Rule) : RuleRegistry :=
  ⟨registry.entries ++ [(kind, rule)]⟩

/-- The first kind that occurred before. -/
def repeated? (seen : List String) : List (String × Rule) → Option String
  | [] => none
  | (kind, _) :: entries => if seen.contains kind then some kind else repeated? (kind :: seen) entries

def build (registry : RuleRegistry) : Except AllocationError Chain :=
  match repeated? [] registry.entries with
  | some kind => .error (.duplicateRule kind)
  | none => .ok (registry.entries.map Prod.snd)

end RuleRegistry

/-- An allocator changes the routing table of a round as far as the rules let it. -/
abbrev Allocator := Chain → Round → Round

structure AllocatorRegistry where
  entries : Dictionary String Allocator

namespace AllocatorRegistry

def empty : AllocatorRegistry := ⟨.empty⟩

def register (registry : AllocatorRegistry) (name : String) (allocator : Allocator) :
    Except AllocationError AllocatorRegistry :=
  if registry.entries.contains name then .error (.duplicateAllocator name)
  else .ok ⟨registry.entries.put name allocator⟩

def get (registry : AllocatorRegistry) (name : String) : Except AllocationError Allocator :=
  match registry.entries.get? name with
  | some allocator => .ok allocator
  | none => .error (.unknownAllocator name)

def names (registry : AllocatorRegistry) : List String :=
  registry.entries.keys

end AllocatorRegistry

end ClusterControl
