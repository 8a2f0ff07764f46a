import ClusterControl.Allocation.ClusterInfo
import ClusterControl.Document.Topology
import ClusterControl.Settings.Basic
import ClusterControl.State.Basic

/-!
The written forms of what a cluster state holds.
-/

namespace ClusterControl

/-- The numbers below 2³², for shards, copies and limits. -/
def narrow : Nat := UInt32.size

/-- The numbers below 2⁶⁴, for versions, terms and bytes. -/
def wide : Nat := UInt64.size

namespace Documented

/-- A part with a number below a limit. -/
def number (limit : Nat) (part : Option Document) : Option Nat :=
  part.bind (Document.asNat? limit)

/-- A part with a number below a limit, which may be missing or null. -/
def optionalNumber (limit : Nat) : Option Document → Option (Option Nat)
  | none => some none
  | some .null => some none
  | some d => (d.asNat? limit).map some

def ofNumber : Option Nat → Document
  | some n => .nat n
  | none => .null

instance : Documented VotingConfiguration where
  toDocument c := .record [("node_ids", toDocument c.ids)]
  ofDocument? d := do
    match ← d.parts? ["node_ids"] with
    | [ids] => return ⟨← required ids⟩
    | _ => none

instance : Documented Exclusion where
  toDocument e := .record [("node_id", toDocument e.nodeId), ("node_name", toDocument e.nodeName)]
  ofDocument? d := do
    match ← d.parts? ["node_id", "node_name"] with
    | [id, name] => return ⟨← optional id, ← optional name⟩
    | _ => none

instance : Documented Coordination where
  toDocument c := .record [
    ("term", .nat c.term), ("last_committed_configuration", toDocument c.committed),
    ("last_accepted_configuration", toDocument c.accepted),
    ("voting_config_exclusions", toDocument c.exclusions)]
  ofDocument? d := do
    match ← d.parts? ["term", "last_committed_configuration", "last_accepted_configuration",
      "voting_config_exclusions"] with
    | [term, committed, accepted, exclusions] =>
      return ⟨← number wide term, ← required committed, ← required accepted, ← required exclusions⟩
    | _ => none

/-- A choice is written by its name, in the letters that it has. -/
instance {α : Type} [Choice α] : Documented α where
  toDocument a := .text (Choice.name a)
  ofDocument? d := d.plainCase?.bind Choice.ofName?

instance : Documented NodeFilter where
  toDocument f := .record [("rules", ofDictionary f.rules)]
  ofDocument? d := do
    match ← d.parts? ["rules"] with
    | [rules] => return ⟨← rules.bind dictionary?⟩
    | _ => none

instance : Documented AllocationFilters where
  toDocument f := .record [
    ("require", toDocument f.required), ("include", toDocument f.included),
    ("exclude", toDocument f.excluded)]
  ofDocument? d := do
    match ← d.parts? ["require", "include", "exclude"] with
    | [required, included, excluded] =>
      return ⟨← Documented.required required, ← Documented.required included,
        ← Documented.required excluded⟩
    | _ => none

instance : Documented IndexSettings where
  toDocument s := .record [
    ("filters", toDocument s.filters), ("total_shards_per_node", ofNumber s.totalShardsPerNode),
    ("max_retries", .nat s.maxRetries), ("allocation_enable", toDocument s.enable),
    ("rebalance_enable", toDocument s.rebalanceEnable),
    ("resize_source", toDocument s.resizeSource)]
  ofDocument? d := do
    match ← d.parts? ["filters", "total_shards_per_node", "max_retries", "allocation_enable",
      "rebalance_enable", "resize_source"] with
    | [filters, total, retries, enable, rebalance, source] =>
      return ⟨← required filters, ← optionalNumber narrow total, ← number narrow retries,
        ← optional enable, ← optional rebalance, ← optional source⟩
    | _ => none

instance : Documented Index where
  toDocument index := .record [
    ("name", .text index.name), ("number_of_shards", .nat index.shards),
    ("number_of_replicas", .nat index.replicas), ("settings", toDocument index.settings)]
  ofDocument? d := do
    match ← d.parts? ["name", "number_of_shards", "number_of_replicas", "settings"] with
    | [name, shards, replicas, settings] =>
      return ⟨← required name, ← number narrow shards, ← number narrow replicas,
        ← required settings⟩
    | _ => none

instance : Documented ShardId where
  toDocument s := .record [("index", .text s.index), ("id", .nat s.number)]
  ofDocument? d := do
    match ← d.parts? ["index", "id"] with
    | [index, id] => return ⟨← required index, ← number narrow id⟩
    | _ => none

def stageNames : List (String × Stage) :=
  [("Unassigned", .unassigned), ("Initializing", .initializing), ("Started", .started),
    ("Relocating", .relocating)]

def reasonNames : List (String × UnassignedReason) :=
  [("IndexCreated", .indexCreated), ("NewIndexRestored", .newIndexRestored),
    ("NodeLeft", .nodeLeft), ("AllocationFailed", .allocationFailed),
    ("PrimaryFailed", .primaryFailed)]

def operationNames : List (String × OperationState) :=
  [("Init", .running), ("Success", .success), ("Failure", .failure)]

def plainSourceNames : List (String × RecoverySource) :=
  [("EmptyStore", .emptyStore), ("ExistingStore", .existingStore), ("Peer", .peer),
    ("LocalShards", .localShards)]

/-- Values written by the names of a table. -/
@[reducible] def named {α : Type} [DecidableEq α] (names : List (String × α)) : Documented α where
  toDocument a := .text (((names.find? fun entry => entry.2 = a).map Prod.fst).getD "")
  ofDocument? d := d.plainCase?.bind fun name => names.lookup name

instance : Documented Stage := named stageNames

instance : Documented UnassignedReason := named reasonNames

instance : Documented OperationState := named operationNames

instance : Documented RecoverySource where
  toDocument
    | .snapshot restore name => .record [
        ("Snapshot", .record [("restore_uuid", .text restore), ("snapshot", .text name)])]
    | source => (named plainSourceNames).toDocument source
  ofDocument? d :=
    match d.case? with
    | some ("Snapshot", content) => do
      match ← content.parts? ["restore_uuid", "snapshot"] with
      | [restore, name] => return .snapshot (← required restore) (← required name)
      | _ => none
    | _ => (named plainSourceNames).ofDocument? d

instance : Documented UnassignedInfo where
  toDocument info := .record [
    ("reason", toDocument info.reason), ("failed_allocations", .nat info.failures),
    ("message", toDocument info.message)]
  ofDocument? d := do
    match ← d.parts? ["reason", "failed_allocations", "message"] with
    | [reason, failures, message] =>
      return ⟨← required reason, ← number narrow failures, ← optional message⟩
    | _ => none

instance : Documented ShardCopy where
  toDocument c := .record [
    ("shard_id", toDocument c.shard), ("copy", .nat c.number), ("primary", .bool c.primary),
    ("state", toDocument c.stage), ("current_node", toDocument c.node),
    ("relocating_node", toDocument c.target), ("recovery_source", toDocument c.source),
    ("unassigned_info", toDocument c.info)]
  ofDocument? d := do
    match ← d.parts? ["shard_id", "copy", "primary", "state", "current_node", "relocating_node",
      "recovery_source", "unassigned_info"] with
    | [shard, copy, primary, stage, node, target, source, info] =>
      return ⟨← required shard, ← number narrow copy, ← required primary, ← required stage,
        ← optional node, ← optional target, ← optional source, ← optional info⟩
    | _ => none

instance : Documented SnapshotShard where
  toDocument s := .record [("node_id", .text s.node), ("state", toDocument s.state)]
  ofDocument? d := do
    match ← d.parts? ["node_id", "state"] with
    | [node, state] => return ⟨← required node, ← required state⟩
    | _ => none

instance : Documented DiskUsage where
  toDocument disk := .record [("total_bytes", .nat disk.total), ("free_bytes", .nat disk.free)]
  ofDocument? d := do
    match ← d.parts? ["total_bytes", "free_bytes"] with
    | [total, free] => return ⟨← number wide total, ← number wide free⟩
    | _ => none

end Documented

/-- What is kept of a cluster beside its routing, as it is written. Nothing is checked: an index may
stand under a name not its own. -/
structure WrittenMetadata where
  coordination : Coordination
  indices : Dictionary String Index

instance : Documented WrittenMetadata where
  toDocument w := .record [
    ("coordination", toDocument w.coordination), ("indices", Documented.ofDictionary w.indices)]
  ofDocument? d := do
    match ← d.parts? ["coordination", "indices"] with
    | [coordination, indices] =>
      return ⟨← Documented.required coordination, ← indices.bind Documented.dictionary?⟩
    | _ => none

end ClusterControl
