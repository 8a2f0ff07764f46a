import ClusterControl.Proofs.Allocation.Continuity

/-!
When a reroute gives a new state. One flag says that the table was brought in line with the state, another that the
allocator replaced a copy. Neither can be undone by what follows: the allocator leaves the shards of the table as they
are and puts no copy on a node that left, and a copy that it replaced receives data from then on, which it did not
before. But the first flag is also set for an index without any shards, for which there is nothing to bring in line.
-/

namespace ClusterControl

namespace RoutingTable

variable {t : RoutingTable} {c : ShardCopy} {shard : ShardId} {directory : Directory}

theorem mem_shardIds_update : shard ∈ (t.update c).shardIds ↔ shard ∈ t.shardIds := by
  rw [mem_shardIds, mem_shardIds, get?_update]
  split <;> simp

theorem mem_shardIds_replacePrimary : shard ∈ (t.replacePrimary directory c).shardIds ↔ shard ∈ t.shardIds := by
  rw [replacePrimary]
  split
  case h_1 => rw [mem_shardIds_update, mem_shardIds_update]
  case h_2 => rw [mem_shardIds_update]

theorem mem_shardIds_settleCopy : shard ∈ (t.settleCopy directory c).shardIds ↔ shard ∈ t.shardIds := by
  rw [settleCopy]
  split
  case h_1 => rfl
  case h_2 =>
    split
    · exact mem_shardIds_update
    · split
      · exact mem_shardIds_replacePrimary
      · exact mem_shardIds_update

theorem mem_shardIds_settled : shard ∈ (t.settled directory).shardIds ↔ shard ∈ t.shardIds := by
  rw [settled]
  refine List.foldlRecOn (motive := fun u : RoutingTable => shard ∈ u.shardIds ↔ shard ∈ t.shardIds) _ _ Iff.rfl ?_
  intro u hu c _
  exact mem_shardIds_settleCopy.trans hu

end RoutingTable

namespace Balance

variable {chain : Chain} {r next : Round} {c d : ShardCopy} {log : List ShardCopy} {shard : ShardId}

theorem mem_shardIds_of_steps (h : Relation.ReflTransGen (Step chain) r next) :
    shard ∈ next.routing.shardIds ↔ shard ∈ r.routing.shardIds := by
  refine keeps_of_steps (P := fun next => shard ∈ next.routing.shardIds ↔ shard ∈ r.routing.shardIds) ?_ h Iff.rfl
  intro mid next hs ih
  obtain ⟨_, _, _, _, rfl⟩ := hs.advances
  rw [Round.update_routing, RoutingTable.mem_shardIds_update, ih]

theorem changed_update (hc : r.routing.Has c) (hs : c.sameCopy d = true) : (r.update d).changed = true := by
  have hm : (r.routing.copies d.shard).any (·.sameCopy d) = true :=
    List.any_eq_true.2 ⟨c, (ShardCopy.sameCopy_iff.1 hs).1 ▸ hc.mem, hs⟩
  rw [Round.update, RoutingTable.update?, if_pos hm]

theorem changed_update_of_changed (h : r.changed = true) : (r.update d).changed = true := by
  rw [Round.update]
  split
  case h_1 => rfl
  case h_2 => exact h

theorem Trail.changed_of_changed (h : Trail (fun _ => Advances) r log next) (hr : r.changed = true) :
    next.changed = true := by
  induction h with
  | nil => exact hr
  | cons _ _ _ ih => exact ih (changed_update_of_changed hr)

/-- A trail that replaces any copy is to be seen by the flag and in the table. -/
theorem Trail.shows (hw : r.routing.WellFormed) (h : Trail (fun _ => Advances) r log next) :
    next = r ∨ next.changed = true ∧ next.routing ≠ r.routing := by
  cases h with
  | nil => exact .inl rfl
  | @cons _ _ c d log hc ha rest =>
      have hd : (r.update d).routing.Has d := by
        rw [Round.update_routing]
        exact hc.update_self hw ha.sameCopy
      have hlast : next.routing.Has d := (rest.recovering (by simpa using hw.update d) hd ha.after).1
      refine .inr ⟨rest.changed_of_changed (changed_update hc ha.sameCopy), fun he => ?_⟩
      -- The copy would have to receive data from the outset.
      rw [he] at hlast
      obtain rfl := hc.eq_of_sameCopy hlast ha.sameCopy
      cases ha.after.symm.trans ha.before

theorem allocate_shows (chain : Chain) (hw : r.routing.WellFormed) :
    allocate chain r = r ∨ (allocate chain r).changed = true ∧ (allocate chain r).routing ≠ r.routing := by
  obtain ⟨_, _, _, _, _, h⟩ := allocate_phases chain hw
  exact h.trail.shows hw

end Balance

namespace ClusterState

open RoutingTable

variable {s : ClusterState} {shard : ShardId}

/-- The table is in line with the state if it has the indices that are there, and no copy is on a node that left. -/
theorem syncRouting_snd (hw : s.aligned.WellFormed) : s.syncRouting.2 = false ↔
    (∀ name ∈ s.routing.indexNames, s.indices.contains name = true) ∧
      (∀ index ∈ s.indices, index.name ∈ s.routing.indexNames) ∧ s.aligned.Housed s.directory := by
  have hsnd : s.syncRouting.2 = (!(s.routing.indexNames.toList.filter fun name => !s.indices.contains name).isEmpty ||
      !(s.indices.toList.filter fun index => !s.routing.indexNames.contains index.name).isEmpty ||
      !(s.aligned.toList.filter (isAway s.directory)).isEmpty) := rfl
  rw [hsnd, housed_iff]
  simp only [Bool.or_eq_false_iff, Bool.not_eq_false', List.isEmpty_iff, and_assoc]
  refine and_congr ?_ (and_congr ?_ ?_)
  · rw [List.filter_eq_nil_iff]
    exact forall₂_congr fun name _ => by simp
  · rw [List.eq_nil_iff_forall_not_mem]
    refine forall_congr' fun index => ?_
    rw [mem_unrouted, not_and_not_right]
  · rw [List.filter_eq_nil_iff]
    constructor
    · intro h c hc
      simpa using h c hc.mem_toList
    · intro h c hc
      simpa using h c (hw.has_of_mem_toList hc)

theorem mem_shardIds_aligned_of_new {index : Index} (hi : index ∈ s.indices) (hn : index.name ∉ s.routing.indexNames)
    (hs : shard.index = index.name ∧ shard.number < index.shards) : shard ∈ s.aligned.shardIds := by
  have hf : s.aligned.FollowsAt s.indices.plan shard :=
    followsAt_foldl_addIndex _ (fun index hm => (mem_unrouted.1 hm).1) (.inl ⟨index, mem_unrouted.2 ⟨hi, hn⟩, hs⟩)
  have hp : s.indices.plan shard = some index.replicas := by rw [IndexTable.plan_of_mem hi hs.1, if_pos hs.2]
  exact mem_shardIds.2 (hf.isSome.1 ⟨_, hp⟩)

theorem contains_of_mem_shardIds_aligned (h : shard ∈ s.aligned.shardIds) : s.indices.contains shard.index = true := by
  obtain ⟨l, hg⟩ := mem_shardIds.1 h
  rcases s.get?_aligned shard with h | ⟨index, hi, hn, _, _⟩
  · by_contra hk
    rw [if_neg hk, hg] at h
    cases h
  · exact SortedBy.contains_iff.2 ⟨index, hi, hn⟩

/-- If a table of the shards that a state calls for, with no copy on a node that left, is the one that the state has,
then the state was in line with its table but for indices without shards. -/
theorem in_line_of_eq (hw : s.routing.WellFormed) (hh : s.routing.Housed s.directory)
    (hs : ∀ shard, shard ∈ s.routing.shardIds ↔ shard ∈ s.aligned.shardIds)
    (hz : ∀ index ∈ s.indices, index.shards = 0 → index.name ∈ s.routing.indexNames) : s.syncRouting.2 = false := by
  rw [syncRouting_snd (aligned_wellFormed hw)]
  refine ⟨fun name hn => ?_, fun index hi => ?_, (yields_aligned hw).housed hh⟩
  · obtain ⟨shard, hshard, rfl⟩ := mem_indexNames.1 hn
    exact contains_of_mem_shardIds_aligned ((hs shard).1 hshard)
  · by_contra hn
    have hpos : 0 < index.shards := Nat.pos_of_ne_zero fun h => hn (hz index hi h)
    have hnew : (⟨index.name, 0⟩ : ShardId) ∈ s.aligned.shardIds := mem_shardIds_aligned_of_new hi hn ⟨rfl, hpos⟩
    exact hn (mem_indexNames.2 ⟨_, (hs _).2 hnew, rfl⟩)

end ClusterState

namespace AllocationService

variable {service : AllocationService} {chain : Chain} {settings : Settings} {s : ClusterState}

/-- A reroute gives a new state only together with a new table. -/
def FreshWithTable (service : AllocationService) (settings : Settings) : Prop :=
  ∀ s : ClusterState, s.routing.WellFormed → s.routing.Fits → ∀ rerouted, service.reroute settings s = .ok rerouted →
    (rerouted = .unchanged ↔ (rerouted.stateFrom s).routing = s.routing)

/-- An index without shards is not routed by any reroute, and makes each of them give a new state. -/
theorem fresh_without_shards : ¬ FreshWithTable builtin .initial := by
  intro h
  let s := ClusterState.initial.putIndex ⟨"empty", 0, 0, .initial⟩
  have hnone : ∀ c, ¬ s.routing.Has c := fun _ hc => nomatch hc.mem
  obtain ⟨rerouted, hr, hfresh⟩ := ok_of_map (b := (false, true)) (x := builtin.reroute .initial s)
    (f := fun rerouted => (rerouted matches .unchanged, decide ((rerouted.stateFrom s).routing = s.routing)))
    (by decide +kernel)
  obtain ⟨hnew, hsame⟩ := Prod.mk.inj hfresh
  rw [(h s RoutingTable.wellFormed_empty (fun c hc => absurd hc (hnone c)) rerouted hr).2 (of_decide_eq_true hsame)] at hnew
  cases hnew

section Flags

variable (chain : Chain) (settings : AllocationSettings) (info : ClusterInfo) (hw : s.routing.WellFormed)
  (hf : s.routing.Fits)
include hw hf

/-- Neither flag is set if the allocator ends with the table of the state, but for an index without shards. -/
theorem flags_eq_false_iff :
    let next := Balance.allocate chain (.start { s with routing := s.syncRouting.1 } settings info)
    (s.syncRouting.2 || next.changed) = false ↔
      next.routing = s.routing ∧ ∀ index ∈ s.indices, index.shards = 0 → index.name ∈ s.routing.indexNames := by
  intro next
  have haligned : s.aligned.WellFormed := ClusterState.aligned_wellFormed hw
  have hsettled : s.syncRouting.1.WellFormed := ClusterState.aligned_settled_wellFormed hw hf
  have hshows := Balance.allocate_shows chain (r := .start { s with routing := s.syncRouting.1 } settings info) hsettled
  rw [Bool.or_eq_false_iff]
  constructor
  · rintro ⟨hsynced, hchanged⟩
    obtain ⟨_, hrouted, _⟩ := (ClusterState.syncRouting_snd haligned).1 hsynced
    rcases hshows with he | ⟨htrue, _⟩
    · refine ⟨?_, fun index hi _ => hrouted index hi⟩
      rw [← ClusterState.syncRouting_eq hsynced]
      exact congrArg Round.routing he
    · cases htrue.symm.trans hchanged
  · rintro ⟨hsame, hz⟩
    have hsteps := Balance.allocate_steps chain (r := .start { s with routing := s.syncRouting.1 } settings info) hsettled
    have hhoused : next.routing.Housed s.directory :=
      Balance.housed_of_steps hsteps hsettled
        (RoutingTable.settled_settling _ haligned ((ClusterState.yields_aligned hw).fits hf)).2
    have hshards : ∀ shard, shard ∈ next.routing.shardIds ↔ shard ∈ s.aligned.shardIds := by
      intro shard
      rw [Balance.mem_shardIds_of_steps hsteps]
      exact RoutingTable.mem_shardIds_settled
    rw [hsame] at hhoused hshards
    have hsynced := ClusterState.in_line_of_eq hw hhoused hshards hz
    rcases hshows with he | ⟨_, hne⟩
    · exact ⟨hsynced, congrArg Round.changed he⟩
    · exact absurd (hsame.trans (ClusterState.syncRouting_eq hsynced).symm) hne

end Flags

/-- The given state is what a reroute returns exactly if the table stays as it is and every index without shards has
shards in it. -/
theorem reroute_unchanged_iff (hb : service.Balances chain settings) (hw : s.routing.WellFormed) (hf : s.routing.Fits) :
    ∃ rerouted, service.reroute settings s = .ok rerouted ∧
      (rerouted = .unchanged ↔ (rerouted.stateFrom s).routing = s.routing ∧
        ∀ index ∈ s.indices, index.shards = 0 → index.name ∈ s.routing.indexNames) := by
  refine ⟨_, reroute_eq hb.allocator, ?_⟩
  have hflags := flags_eq_false_iff service.chain settings.allocation service.info hw hf
  dsimp only at hflags
  split
  case isTrue h =>
    rw [h] at hflags
    exact iff_of_false nofun fun hsame => nomatch hflags.2 hsame
  case isFalse h => exact iff_of_true rfl ⟨rfl, (hflags.1 (Bool.eq_false_iff.2 h)).2⟩

open ClusterState in
theorem unsettled_rerouted : logsUnsettled.routing.WellFormed ∧ logsUnsettled.routing.Fits ∧
    ∃ rerouted, builtin.reroute .initial logsUnsettled = .ok rerouted ∧ rerouted ≠ .unchanged ∧
      (rerouted.stateFrom logsUnsettled).routing ≠ logsUnsettled.routing := by
  have hw : logsUnsettled.routing.WellFormed := unsettled_built.wellFormed
  have hf : logsUnsettled.routing.Fits := by
    have hall : ∀ c ∈ logsUnsettled.routing.toList, c.Fits := by decide
    exact fun c hc => hall c hc.mem_toList
  obtain ⟨rerouted, hr, hiff⟩ := reroute_unchanged_iff builtin_balances hw hf
  have hz : ∀ index ∈ logsUnsettled.indices, index.shards = 0 → index.name ∈ logsUnsettled.routing.indexNames := by
    decide
  obtain ⟨_, hr', hnew⟩ := ok_of_map (f := fun rerouted => rerouted matches .unchanged) (b := false)
    (x := builtin.reroute .initial logsUnsettled) (by decide +kernel)
  obtain rfl := Except.ok.inj (hr.symm.trans hr')
  have hne : rerouted ≠ .unchanged := by
    rintro rfl
    cases hnew
  exact ⟨hw, hf, rerouted, hr, hne, fun hsame => hne (hiff.2 ⟨hsame, hz⟩)⟩

end AllocationService

end ClusterControl
