import ClusterControl.Allocation.Rules.Placement
import ClusterControl.Proofs.Allocation.Steps
import ClusterControl.Proofs.Allocation.Verdict
import ClusterControl.Proofs.Routing.Tally

/-!
The limits on how many shards a node holds, in all or of one index. A copy that is placed counts on no other node
than the one that takes it, so a count of shards grows there only, and only if the limit leaves room for one more.
-/

namespace ClusterControl

/-- Copies of these shards that are on a node or on their way to it. -/
def RoutingTable.load (t : RoutingTable) (counts : ShardId → Bool) (id : NodeId) : Nat :=
  (t.onOrMovingTo id).countP fun c => counts c.shard

namespace RoutingTable

variable {t u : RoutingTable} {counts : ShardId → Bool} {id : NodeId}

theorem load_eq : t.load counts id = t.toList.countP fun c => counts c.shard && (c.isOn id || c.isMovingTo id) :=
  List.countP_filter

theorem length_onOrMovingTo : (t.onOrMovingTo id).length = t.load (fun _ => true) id :=
  (congrFun List.countP_true _).symm

/-- Copies that give up nodes weigh on no node more than before. -/
theorem Yields.load_le (h : t.Yields u) (hw : u.WellFormed) : u.load counts id ≤ t.load counts id := by
  rw [load_eq, load_eq]
  refine countP_le_of_yields h hw ?_ ?_
  · intro d hd
    have hnowhere : (d.isOn id || d.isMovingTo id) = false := by
      rw [← Bool.not_eq_true, ← ShardCopy.mem_places_iff_isOn, hd.places]
      exact List.not_mem_nil
    rw [hnowhere, Bool.and_false]
  · intro c d hcd hd
    rw [Bool.and_eq_true, ← ShardCopy.mem_places_iff_isOn] at hd ⊢
    exact ⟨(ShardCopy.sameCopy_iff.1 hcd.same).1 ▸ hd.1, hcd.places hd.2⟩

end RoutingTable

namespace Balance

variable {r : Round} {c advanced : ShardCopy} {target : Node} {counts : ShardId → Bool} {id : NodeId} {limit : Nat}

theorem Arrival.load_le (h : Arrival r c target advanced)
    (hroom : counts c.shard = true → id = target.id → r.routing.load counts id < limit) :
    (r.routing.update advanced).load counts id ≤ max (r.routing.load counts id) limit := by
  rw [RoutingTable.load_eq] at hroom ⊢
  rw [RoutingTable.load_eq]
  refine RoutingTable.countP_update_le h.wellFormed h.has h.sameCopy fun hp => ?_
  rw [Bool.and_eq_true, ← ShardCopy.mem_places_iff_isOn, h.shard_eq] at hp
  rcases h.lands.places hp.2 with hold | rfl
  · left
    rw [Bool.and_eq_true, ← ShardCopy.mem_places_iff_isOn]
    exact ⟨hp.1, hold⟩
  · exact .inr (hroom hp.1 rfl)

end Balance

namespace Rules

variable {r : Round} {c : ShardCopy} {node : Node} {coming : Bool} {limit : Nat}

/-- A node is under the limits for shards of an index: with one more to come, or as it is. -/
structure UnderLimits (coming : Bool) (r : Round) (name : String) (id : NodeId) : Prop where
  ofIndex : ∀ limit, ((r.index? name).bind fun index => index.settings.totalShardsPerNode) = some limit →
    overLimit coming (r.routing.load (fun shard => shard.index = name) id) limit = false
  ofCluster : ∀ limit, r.settings.totalShardsPerNode = some limit →
    overLimit coming (r.routing.load (fun _ => true) id) limit = false

theorem overLimit_coming {count : Nat} : overLimit true count limit = false ↔ count < limit := by
  simp [overLimit]

theorem overLimit_present {count : Nat} : overLimit false count limit = false ↔ count ≤ limit := by
  simp [overLimit]

theorem UnderLimits.present {name : String} {id : NodeId} (h : UnderLimits true r name id) :
    UnderLimits false r name id := by
  refine ⟨fun limit hl => ?_, fun limit hl => ?_⟩
  · exact overLimit_present.2 (Nat.le_of_lt (overLimit_coming.1 (h.ofIndex limit hl)))
  · exact overLimit_present.2 (Nat.le_of_lt (overLimit_coming.1 (h.ofCluster limit hl)))

theorem ofCluster_not_isNo {label : String} {count : Nat} :
    (underShardLimits.ofCluster coming r label count).isNo = false ↔
      ∀ limit, r.settings.totalShardsPerNode = some limit → overLimit coming count limit = false := by
  unfold underShardLimits.ofCluster
  cases r.settings.totalShardsPerNode with
  | none => simp
  | some limit => cases ho : overLimit coming count limit <;> simp [ho]

theorem underShardLimits_not_isNo :
    (underShardLimits coming r c node).isNo = false ↔ UnderLimits coming r c.shard.index node.id := by
  unfold underShardLimits
  dsimp only
  split
  case h_1 limit hlimit =>
    split
    case isTrue hover =>
      refine iff_of_false (by simp) fun h => ?_
      exact absurd (hover.symm.trans (h.ofIndex limit hlimit)) (by decide)
    case isFalse hunder =>
      rw [ofCluster_not_isNo, RoutingTable.length_onOrMovingTo]
      refine ⟨fun h => ⟨fun limit' hl => ?_, h⟩, fun h => h.ofCluster⟩
      cases hlimit.symm.trans hl
      exact Bool.eq_false_iff.2 hunder
  case h_2 hnone =>
    rw [ofCluster_not_isNo, RoutingTable.length_onOrMovingTo]
    exact ⟨fun h => ⟨fun limit hl => absurd (hnone.symm.trans hl) nofun, h⟩, fun h => h.ofCluster⟩

end Rules

/-- Where the node that takes a copy had room for one more, every node that was under the limits still is. -/
theorem Balance.Arrival.underLimits {r : Round} {c advanced : ShardCopy} {target : Node} {name : String} {id : NodeId}
    (h : Arrival r c target advanced) (hroom : Rules.UnderLimits true r c.shard.index target.id)
    (hu : Rules.UnderLimits false r name id) : Rules.UnderLimits false (r.update advanced) name id := by
  refine ⟨fun limit hl => ?_, fun limit hl => ?_⟩
  · rw [Round.update_index?] at hl
    rw [Round.update_routing, Rules.overLimit_present]
    have hbefore := Rules.overLimit_present.1 (hu.ofIndex limit hl)
    refine Nat.le_trans (h.load_le fun hname hid => ?_) (Nat.max_le.2 ⟨hbefore, Nat.le_refl limit⟩)
    obtain rfl : c.shard.index = name := by simpa using hname
    exact hid ▸ Rules.overLimit_coming.1 (hroom.ofIndex limit hl)
  · rw [Round.update_settings] at hl
    rw [Round.update_routing, Rules.overLimit_present]
    have hbefore := Rules.overLimit_present.1 (hu.ofCluster limit hl)
    refine Nat.le_trans (h.load_le fun _ hid => ?_) (Nat.max_le.2 ⟨hbefore, Nat.le_refl limit⟩)
    exact hid ▸ Rules.overLimit_coming.1 (hroom.ofCluster limit hl)

end ClusterControl
