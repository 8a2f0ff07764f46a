import ClusterControl.Proofs.Allocation.Attendance
import ClusterControl.Proofs.Allocation.ShardLimits
import ClusterControl.Proofs.Allocation.Upkeep

/-!
The limits on shards over whole runs. Copies that take their turns weigh on no node more than before, the shards of
a new index are on no node, and the rule lets the allocator take a node only where there is room. So as long as the
limits are the same no state that is reached has more shards on a node than they allow.
-/

namespace ClusterControl

/-- No node has more copies, on it or on their way to it, than the cluster allows, nor more copies of an index than
that index allows. -/
structure RoutingTable.Capped (cap : Option Nat) (indices : IndexTable) (t : RoutingTable) : Prop where
  ofCluster : ∀ limit, cap = some limit → ∀ id, t.load (fun _ => true) id ≤ limit
  ofIndex : ∀ index ∈ indices, ∀ limit, index.settings.totalShardsPerNode = some limit → ∀ id,
    t.load (fun shard => shard.index = index.name) id ≤ limit

/-- The cap is what the rule asks for of copies that are there already. -/
theorem Round.capped_iff {r : Round} : r.routing.Capped r.settings.totalShardsPerNode r.state.indices ↔
    ∀ name id, Rules.UnderLimits false r name id := by
  constructor
  · intro h name id
    refine ⟨fun limit hl => ?_, fun limit hl => ?_⟩
    · obtain ⟨index, hfound, hlimit⟩ := Option.bind_eq_some_iff.1 hl
      obtain ⟨hm, rfl⟩ := SortedBy.find?_eq_some_iff.1 hfound
      exact Rules.overLimit_present.2 (h.ofIndex index hm limit hlimit id)
    · exact Rules.overLimit_present.2 (h.ofCluster limit hl id)
  · intro h
    refine ⟨fun limit hl id => ?_, fun index hm limit hl id => ?_⟩
    · exact Rules.overLimit_present.1 ((h "" id).ofCluster limit hl)
    · have hfound : r.index? index.name = some index := SortedBy.find?_eq_some_iff.2 ⟨hm, rfl⟩
      refine Rules.overLimit_present.1 ((h index.name id).ofIndex limit ?_)
      rw [hfound, Option.bind_some, hl]

namespace ClusterState

variable {s : ClusterState} {plan : StaffPlan} {index : Index} {id : NodeId}

/-- An index that is new has nothing routed yet. -/
theorem Routed.load_eq_zero (h : s.Routed plan) (hn : s.index? index.name = none) :
    s.routing.load (fun shard => shard.index = index.name) id = 0 := by
  rw [RoutingTable.load_eq, List.countP_eq_zero]
  intro c hc
  have hhas := h.1.wellFormed.has_of_mem_toList hc
  obtain ⟨hf, rfl | rfl⟩ := h
  · exact absurd hhas hf.not_has_of_none
  · obtain ⟨other, ho, he⟩ := hf.index_of_has hhas
    have hne : c.shard.index ≠ index.name := by
      intro hs
      rw [index?, ← hs, ← he, SortedBy.find?_eq_some_iff.2 ⟨ho, rfl⟩] at hn
      cases hn
    simp [hne]

end ClusterState

open RoutingTable in
theorem Chain.upkeep_capped {chain : Chain} (cap : Option Nat) (hm : Rules.shardsLimit ∈ chain) :
    chain.Upkeep (fun settings => settings.totalShardsPerNode = cap) (Capped cap) := by
  refine ⟨?_, ?_, ?_, ?_⟩
  · intro indices
    exact ⟨fun _ _ _ => Nat.zero_le _, fun _ _ _ _ _ => Nat.zero_le _⟩
  · intro s altered plan hr ha h
    have hload : ∀ counts id, altered.aligned.load counts id ≤ s.routing.load counts id := by
      intro counts id
      have hw := (ClusterState.aligned_follows (ha.alignable hr)).wellFormed
      have hyields := ClusterState.yields_aligned (s := altered) (ha.routing_eq ▸ hr.1.wellFormed)
      exact ha.routing_eq ▸ hyields.load_le hw
    refine ⟨fun limit hl id => Nat.le_trans (hload _ id) (h.ofCluster limit hl id), fun index hi limit hl id => ?_⟩
    refine Nat.le_trans (hload _ id) ?_
    rcases ha.index_cases hi with hold | hnew
    · exact h.ofIndex index hold limit hl id
    · rw [hr.load_eq_zero hnew]
      exact Nat.zero_le limit
  · intro indices t u hages hw h
    refine ⟨fun limit hl id => ?_, fun index hi limit hl id => ?_⟩
    · exact Nat.le_trans (hages.yields.load_le hw) (h.ofCluster limit hl id)
    · exact Nat.le_trans (hages.yields.load_le hw) (h.ofIndex index hi limit hl id)
  · rintro r next rfl hs hw _ h
    obtain ⟨c, target, advanced, ha, hy, rfl⟩ := hs.arrival hw
    have hrule : (Rules.shardsLimit.allocate r c target).isYes = true := Chain.combine_isYes.1 hy _ hm
    have hroom := Rules.underShardLimits_not_isNo.1 (Decision.isNo_of_isYes hrule)
    have hcapped := Round.capped_iff.2 fun name id => ha.underLimits hroom (Round.capped_iff.1 h name id)
    rwa [Round.update_settings, Round.update_state] at hcapped

namespace Chain.ReachesUnder

/-- While neither the limit of the cluster nor that of an index changes, no node has more shards than they allow. -/
theorem shards_within_caps {chain : Chain} {cap : Option Nat} {s : ClusterState}
    (h : chain.ReachesUnder (fun settings => settings.totalShardsPerNode = cap) s) (hm : Rules.shardsLimit ∈ chain) :
    (∀ limit, cap = some limit → ∀ id, (s.routing.onOrMovingTo id).length ≤ limit) ∧
      ∀ index ∈ s.indices, ∀ limit, index.settings.totalShardsPerNode = some limit → ∀ id,
        (s.routing.onOrMovingTo id).countP (fun c => c.shard.index = index.name) ≤ limit := by
  have hcapped := h.holds (Chain.upkeep_capped cap hm)
  refine ⟨fun limit hl id => ?_, hcapped.ofIndex⟩
  rw [RoutingTable.length_onOrMovingTo]
  exact hcapped.ofCluster limit hl id

end Chain.ReachesUnder

namespace ClusterState

open AllocationService

/-- Settings by which a node takes two shards. -/
def twoShardsPerNode : Settings :=
  { Settings.initial with allocation := { Settings.initial.allocation with totalShardsPerNode := some 2 } }

/-- An index with two shards that are to be apart. -/
def logsApart : Index :=
  ⟨"logs", 2, 0, { IndexSettings.initial with totalShardsPerNode := some 1 }⟩

/-- It is created in a cluster of one node. -/
def logsCrowded : ClusterState :=
  builtin.reconcile twoShardsPerNode (alone.putIndex logsApart)

theorem logsCrowded_reached :
    Rules.builtin.ReachesUnder (fun settings => settings.totalShardsPerNode = some 2) logsCrowded := by
  have hb : builtin.Balances Rules.builtin twoShardsPerNode := ⟨rfl, rfl⟩
  exact .step (.start (s := alone) rfl) hb rfl (hb.step_reconcile (.create logsApart rfl rfl rfl))

/-- The node takes one of its shards, and the other one waits. -/
theorem logsCrowded_within_caps :
    Rules.builtin.ReachesUnder (fun settings => settings.totalShardsPerNode = some 2) logsCrowded ∧
      Rules.shardsLimit ∈ Rules.builtin ∧ (logsCrowded.routing.onOrMovingTo "a").length = 1 ∧
      logsCrowded.routing.unassigned.length = 1 ∧ (∀ id, (logsCrowded.routing.onOrMovingTo id).length ≤ 2) ∧
      ∀ id, (logsCrowded.routing.onOrMovingTo id).countP (fun c => c.shard.index = "logs") ≤ 1 := by
  have hm : Rules.shardsLimit ∈ Rules.builtin := by simp [Rules.builtin]
  have hi : logsApart ∈ logsCrowded.indices := by
    rw [logsCrowded, reconcile_indices]
    exact SortedBy.mem_insert.2 (.inl rfl)
  obtain ⟨hcluster, hindex⟩ := logsCrowded_reached.shards_within_caps hm
  exact ⟨logsCrowded_reached, hm, by decide +kernel, by decide +kernel, hcluster 2 rfl, hindex logsApart hi 1 rfl⟩

end ClusterState

end ClusterControl
