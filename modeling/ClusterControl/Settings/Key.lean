import ClusterControl.Text.Split

/-!
The settings that can be changed, and their keys.
-/

namespace ClusterControl

inductive FilterKind
  | required
  | included
  | excluded
  deriving DecidableEq, Repr

def FilterKind.name : FilterKind → String
  | required => "require"
  | included => "include"
  | excluded => "exclude"

def FilterKind.all : List FilterKind := [required, included, excluded]

inductive Setting
  | maxVotingExclusions
  | rebalanceEnable
  | enable
  | allowRebalance
  | concurrentRebalance
  | incomingRecoveries
  | outgoingRecoveries
  | concurrentRecoveries
  | initialPrimaries
  | diskThresholdEnabled
  | lowWatermark
  | highWatermark
  | awareness
  | totalShardsPerNode
  | allocator
  | filter (kind : FilterKind) (label : String)
  deriving DecidableEq, Repr

namespace Setting

/-- What the keys of allocation settings start with. -/
def allocationRoot : String := "cluster.routing.allocation."

def maxVotingExclusionsKey : String := "cluster.max_voting_config_exclusions"

def key : Setting → String
  | maxVotingExclusions => maxVotingExclusionsKey
  | rebalanceEnable => "cluster.routing.rebalance.enable"
  | enable => allocationRoot ++ "enable"
  | allowRebalance => allocationRoot ++ "allow_rebalance"
  | concurrentRebalance => allocationRoot ++ "cluster_concurrent_rebalance"
  | incomingRecoveries => allocationRoot ++ "node_concurrent_incoming_recoveries"
  | outgoingRecoveries => allocationRoot ++ "node_concurrent_outgoing_recoveries"
  | concurrentRecoveries => allocationRoot ++ "node_concurrent_recoveries"
  | initialPrimaries => allocationRoot ++ "node_initial_primaries_recoveries"
  | diskThresholdEnabled => allocationRoot ++ "disk.threshold_enabled"
  | lowWatermark => allocationRoot ++ "disk.watermark.low"
  | highWatermark => allocationRoot ++ "disk.watermark.high"
  | awareness => allocationRoot ++ "awareness.attributes"
  | totalShardsPerNode => allocationRoot ++ "total_shards_per_node"
  | allocator => allocationRoot ++ "type"
  | filter kind label => allocationRoot ++ kind.name ++ "." ++ label

/-- The settings with a key of their own. -/
def single : List Setting :=
  [maxVotingExclusions, rebalanceEnable, enable, allowRebalance, concurrentRebalance,
    incomingRecoveries, outgoingRecoveries, concurrentRecoveries, initialPrimaries,
    diskThresholdEnabled, lowWatermark, highWatermark, awareness, totalShardsPerNode, allocator]

/-- The filter setting with this key: a kind and, behind a point, the label of an attribute. -/
def filterOfKey? (s : String) : Option Setting := do
  let rest ← Text.dropStart? allocationRoot.toList s.toList
  let (kind, label) ← Text.splitOnce '.' rest
  let kind ← FilterKind.all.find? fun k => k.name.toList = kind
  if label.isEmpty then none else some (filter kind (String.ofList label))

def ofKey? (s : String) : Option Setting :=
  (single.find? fun setting => setting.key = s).orElse fun _ => filterOfKey? s

variable {s : String} {setting : Setting}

theorem filterOfKey?_eq_some (h : filterOfKey? s = some setting) :
    setting.key = s ∧ ∃ kind label, setting = filter kind label ∧ label ≠ "" := by
  simp only [filterOfKey?, Option.bind_eq_bind, Option.bind_eq_some_iff] at h
  obtain ⟨rest, hrest, ⟨name, label⟩, hcut, kind, hkind, h⟩ := h
  dsimp only at h
  split at h
  case isTrue => cases h
  case isFalse hne =>
    cases h
    have hname : kind.name.toList = name := by simpa using List.find?_some hkind
    refine ⟨?_, kind, String.ofList label, rfl, by simpa using hne⟩
    rw [← String.toList_inj, Text.dropStart?_eq_some hrest, (Text.splitOnce_eq_some hcut).1, ← hname]
    simp [key]

theorem ofKey?_eq_some (h : ofKey? s = some setting) :
    setting.key = s ∧ (setting ∈ single ∨ ∃ kind label, setting = filter kind label ∧ label ≠ "") := by
  unfold ofKey? at h
  cases hf : single.find? fun setting => setting.key = s with
  | some found =>
    rw [hf] at h
    cases h
    exact ⟨by simpa using List.find?_some hf, .inl (List.mem_of_find?_eq_some hf)⟩
  | none =>
    rw [hf] at h
    obtain ⟨hs, hfilter⟩ := filterOfKey?_eq_some h
    exact ⟨hs, .inr hfilter⟩

end Setting

end ClusterControl
