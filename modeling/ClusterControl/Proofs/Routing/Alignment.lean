import ClusterControl.Proofs.Routing.Staffing

/-!
Bringing the routing table in line with a state. Shards of indices that are gone are dropped, those of new
ones get a fresh staff, and copies are taken off the nodes that left; the table then follows the plan of
the indices. Every copy in it is one that was there before or a fresh one.
-/

namespace ClusterControl

variable {indices : IndexTable} {index : Index} {shard : ShardId}

theorem IndexTable.plan_of_mem (hi : index ∈ indices) (hn : shard.index = index.name) :
    indices.plan shard = if shard.number < index.shards then some index.replicas else none := by
  rw [plan, SortedBy.find?_eq_some_iff.2 ⟨hi, hn.symm⟩, Option.bind_some]

theorem IndexTable.plan_of_absent (h : ∀ index ∈ indices, index.name ≠ shard.index) : indices.plan shard = none := by
  have hf : indices.find? shard.index = none := by
    refine List.find?_eq_none.2 ?_
    intro index hi
    simpa using h index hi
  rw [plan, hf, Option.bind_none]

namespace RoutingTable

variable {t : RoutingTable} {c : ShardCopy} {plan : StaffPlan} {name : String}

theorem mem_indexNames : name ∈ t.indexNames ↔ ∃ shard ∈ t.shardIds, shard.index = name := by
  rw [indexNames, SortedSet.mem_ofList, List.mem_map]

theorem mem_indexNames_of_get? {l : List ShardCopy} (hg : t.shards.get? shard = some l) :
    shard.index ∈ t.indexNames :=
  mem_indexNames.2 ⟨shard, mem_shardIds.2 ⟨l, hg⟩, rfl⟩

theorem get?_foldl_removeIndex (names : List String) : (names.foldl removeIndex t).shards.get? shard =
    if shard.index ∈ names then none else t.shards.get? shard := by
  induction names generalizing t with
  | nil => simp
  | cons name names ih =>
      rw [List.foldl_cons, ih, get?_removeIndex]
      by_cases hn : shard.index = name <;> by_cases hm : shard.index ∈ names <;> simp [hn, hm]

theorem followsAt_addIndex {source : RecoverySource} (hi : index ∈ indices)
    (h : shard.index = index.name ∧ shard.number < index.shards ∨ t.FollowsAt indices.plan shard) :
    (t.addIndex index source).FollowsAt indices.plan shard := by
  by_cases hs : shard.index = index.name ∧ shard.number < index.shards
  · rw [FollowsAt, get?_addIndex, if_pos hs, IndexTable.plan_of_mem hi hs.1, if_pos hs.2]
    exact .some (.fresh shard index.replicas source)
  · refine (h.resolve_left hs).congr rfl ?_
    rw [get?_addIndex, if_neg hs]

theorem followsAt_foldl_addIndex (new : List Index) (hi : ∀ index ∈ new, index ∈ indices)
    (h : (∃ index ∈ new, shard.index = index.name ∧ shard.number < index.shards) ∨
      t.FollowsAt indices.plan shard) :
    (new.foldl (fun t index => t.addIndex index index.primarySource) t).FollowsAt indices.plan shard := by
  induction new generalizing t with
  | nil => simpa using h
  | cons first new ih =>
      have hfirst : first ∈ indices := hi first List.mem_cons_self
      refine ih (fun index hm => hi index (List.mem_cons_of_mem first hm)) ?_
      rcases h with ⟨index, hm, hs⟩ | h
      · rcases List.mem_cons.1 hm with rfl | hm
        · exact .inr (followsAt_addIndex hfirst (.inl hs))
        · exact .inl ⟨index, hm, hs⟩
      · exact .inr (followsAt_addIndex hfirst (.inr h))

theorem get?_foldl_addIndex_cases (shard : ShardId) (new : List Index) :
    (new.foldl (fun t index => t.addIndex index index.primarySource) t).shards.get? shard = t.shards.get? shard ∨
      ∃ index ∈ new, index.name = shard.index ∧
        (new.foldl (fun t index => t.addIndex index index.primarySource) t).shards.get? shard =
          some (freshCopies shard index.replicas index.primarySource) := by
  induction new generalizing t with
  | nil => exact .inl rfl
  | cons index new ih =>
      rcases ih (t := t.addIndex index index.primarySource) with h | ⟨other, hm, hn, h⟩
      · rw [List.foldl_cons, h, get?_addIndex]
        split
        case isTrue hs => exact .inr ⟨index, List.mem_cons_self, hs.1.symm, rfl⟩
        case isFalse => exact .inl rfl
      · exact .inr ⟨other, List.mem_cons_of_mem index hm, hn, h⟩

theorem vacant_of_mem_freshCopies {replicas : Nat} {source : RecoverySource}
    (h : c ∈ freshCopies shard replicas source) : c.Vacant := by
  simp only [freshCopies, List.mem_cons, List.mem_map] at h
  rcases h with rfl | ⟨_, _, rfl⟩ <;> exact ⟨⟨rfl, rfl⟩, rfl⟩

theorem Follows.settleCopy (h : t.Follows plan) (d : Directory) (c : ShardCopy) :
    (t.settleCopy d c).Follows plan := by
  unfold RoutingTable.settleCopy
  split
  case h_1 => exact h
  case h_2 current hf =>
    have hc : t.Has current := h.wellFormed.has_of_find? hf
    split
    · exact h.update hc (ShardCopy.sameCopy_self _) rfl
    · split
      case isTrue hp =>
        rw [Bool.and_eq_true] at hp
        exact h.loss (h.wellFormed.replacePrimary_loss hc hp.1 hp.2)
      case isFalse => exact h.update hc (ShardCopy.sameCopy_self _) rfl

theorem Follows.settle (h : t.Follows plan) (d : Directory) (departed : List ShardCopy) :
    (departed.foldl (RoutingTable.settleCopy d) t).Follows plan := by
  induction departed generalizing t with
  | nil => exact h
  | cons c departed ih => exact ih (h.settleCopy d c)

/-- Where an index has shards in the table, these follow the plan; an index without any is still to come, and
one that is gone does not matter. -/
def Alignable (t : RoutingTable) (indices : IndexTable) : Prop :=
  ∀ index ∈ indices, index.name ∈ t.indexNames → ∀ n, t.FollowsAt indices.plan ⟨index.name, n⟩

theorem Follows.alignable (h : t.Follows indices.plan) : t.Alignable indices :=
  fun _ _ _ _ => h _

theorem Follows.known (h : t.Follows indices.plan) (hn : name ∈ t.indexNames) : ∃ index ∈ indices, index.name = name := by
  obtain ⟨shard, hs, rfl⟩ := mem_indexNames.1 hn
  by_contra hnone
  push Not at hnone
  obtain ⟨l, hg⟩ := mem_shardIds.1 hs
  obtain ⟨replicas, hp, _⟩ := h.staffed hg
  rw [IndexTable.plan_of_absent hnone] at hp
  cases hp

theorem Follows.index_of_has (h : t.Follows indices.plan) (hc : t.Has c) :
    ∃ index ∈ indices, index.name = c.shard.index :=
  h.known (mem_indexNames_of_get? hc.get?_eq)

/-- The plan of no index at all is followed by the empty table only. -/
theorem Follows.get?_of_none (h : t.Follows fun _ => none) (shard : ShardId) : t.shards.get? shard = none := by
  by_contra hg
  obtain ⟨l, hl⟩ := Option.ne_none_iff_exists'.1 hg
  obtain ⟨_, hp, _⟩ := h.staffed hl
  cases hp

theorem Follows.not_has_of_none (h : t.Follows fun _ => none) : ¬ t.Has c := by
  intro hc
  have hm := hc.mem
  rw [copies, h.get?_of_none] at hm
  cases hm

/-- Any indices can be routed in such a table. -/
theorem Follows.alignable_of_none (h : t.Follows fun _ => none) : t.Alignable indices := by
  intro index _ hn
  obtain ⟨shard, hs, _⟩ := mem_indexNames.1 hn
  obtain ⟨l, hg⟩ := mem_shardIds.1 hs
  rw [h.get?_of_none] at hg
  cases hg

theorem empty_follows : empty.Follows fun _ => none :=
  fun _ => .none

end RoutingTable

namespace ClusterState

variable {s : ClusterState}

open RoutingTable

/-- Dropping the indices that are gone leaves the shards of the others. -/
theorem get?_withoutGone : ((s.routing.indexNames.toList.filter fun name => !s.indices.contains name).foldl
    removeIndex s.routing).shards.get? shard =
      if s.indices.contains shard.index then s.routing.shards.get? shard else none := by
  rw [get?_foldl_removeIndex]
  cases hk : s.indices.contains shard.index with
  | true => simp [hk]
  | false =>
      split
      case isTrue => rfl
      case isFalse hm =>
        by_contra hg
        obtain ⟨l, hl⟩ := Option.ne_none_iff_exists'.1 hg
        exact hm (List.mem_filter.2 ⟨mem_indexNames_of_get? hl, by simp [hk]⟩)

/-- The routing without the indices that are gone, and with those that are new. -/
def aligned (s : ClusterState) : RoutingTable :=
  let routed := s.routing.indexNames
  let gone := routed.toList.filter fun name => !s.indices.contains name
  let new := s.indices.toList.filter fun index => !routed.contains index.name
  new.foldl (fun t index => t.addIndex index index.primarySource) (gone.foldl removeIndex s.routing)

theorem syncRouting_fst (s : ClusterState) : s.syncRouting.1 = s.aligned.settled s.directory :=
  rfl

theorem mem_unrouted : (index ∈ s.indices.toList.filter fun index => !s.routing.indexNames.contains index.name) ↔
    index ∈ s.indices ∧ index.name ∉ s.routing.indexNames := by
  rw [List.mem_filter, Bool.not_eq_true', ← Bool.not_eq_true, SortedSet.contains_iff_mem]
  exact Iff.rfl

theorem aligned_follows (h : s.routing.Alignable s.indices) : s.aligned.Follows s.indices.plan := by
  intro shard
  have hnew : ∀ index ∈ s.indices.toList.filter fun index => !s.routing.indexNames.contains index.name,
      index ∈ s.indices := fun index hm => (mem_unrouted.1 hm).1
  apply followsAt_foldl_addIndex _ hnew
  by_cases hknown : s.indices.contains shard.index = true
  · obtain ⟨index, hi, hn⟩ := SortedBy.contains_iff.1 hknown
    by_cases hr : index.name ∈ s.routing.indexNames
    · -- The index was routed before.
      have hf := h index hi hr shard.number
      rw [hn] at hf
      exact .inr (hf.congr rfl (get?_withoutGone.trans (if_pos hknown)))
    · by_cases hs : shard.number < index.shards
      · exact .inl ⟨index, mem_unrouted.2 ⟨hi, hr⟩, hn.symm, hs⟩
      · refine .inr (followsAt_of_none ?_ ?_)
        · rw [IndexTable.plan_of_mem hi hn.symm, if_neg hs]
        · rw [get?_withoutGone, if_pos hknown]
          by_contra hg
          obtain ⟨l, hl⟩ := Option.ne_none_iff_exists'.1 hg
          exact hr (hn ▸ mem_indexNames_of_get? hl)
  · refine .inr (followsAt_of_none (IndexTable.plan_of_absent ?_) ?_)
    · intro index hi hn
      exact hknown (SortedBy.contains_iff.2 ⟨index, hi, hn⟩)
    · rw [get?_withoutGone, if_neg hknown]

theorem syncRouting_follows (h : s.routing.Alignable s.indices) : s.syncRouting.1.Follows s.indices.plan :=
  (aligned_follows h).settle s.directory _

/-- A shard is as it was before, if its index is still there, or it is a fresh one of an index without shards. -/
theorem get?_aligned (s : ClusterState) (shard : ShardId) :
    s.aligned.shards.get? shard = (if s.indices.contains shard.index then s.routing.shards.get? shard else none) ∨
      ∃ index ∈ s.indices, index.name = shard.index ∧ index.name ∉ s.routing.indexNames ∧
        s.aligned.shards.get? shard = some (freshCopies shard index.replicas index.primarySource) := by
  have hcases := get?_foldl_addIndex_cases shard
    (t := (s.routing.indexNames.toList.filter fun name => !s.indices.contains name).foldl removeIndex s.routing)
    (s.indices.toList.filter fun index => !s.routing.indexNames.contains index.name)
  rcases hcases with h | ⟨index, hm, hn, h⟩
  · exact .inl (h.trans get?_withoutGone)
  · obtain ⟨hi, hnew⟩ := mem_unrouted.1 hm
    exact .inr ⟨index, hi, hn, hnew, h⟩

theorem has_aligned_cases {c : ShardCopy} (hw : s.routing.WellFormed) (hc : s.aligned.Has c) :
    s.routing.Has c ∧ s.indices.contains c.shard.index = true ∨
      ∃ index ∈ s.indices, index.name = c.shard.index ∧
        c ∈ freshCopies c.shard index.replicas index.primarySource := by
  have hm := hc.mem
  rw [copies] at hm
  rcases s.get?_aligned c.shard with h | ⟨index, hi, hn, _, h⟩
  · rw [h] at hm
    split at hm
    case isTrue hk => exact .inl ⟨hw.has_of_mem hm, hk⟩
    case isFalse => cases hm
  · rw [h, Option.getD_some] at hm
    exact .inr ⟨index, hi, hn, hm⟩

/-- A copy stays as long as its index does. -/
theorem has_aligned {c : ShardCopy} (hc : s.routing.Has c) (hi : s.indices.contains c.shard.index = true) :
    s.aligned.Has c := by
  rcases s.get?_aligned c.shard with h | ⟨index, _, hn, hnew, _⟩
  · rw [if_pos hi] at h
    rwa [Has, find?, copies, h]
  · exact absurd (hn ▸ mem_indexNames_of_get? hc.get?_eq) hnew

theorem yields_aligned (hw : s.routing.WellFormed) : s.routing.Yields s.aligned := by
  intro c hc
  rcases has_aligned_cases hw hc with ⟨hold, _⟩ | ⟨index, _, _, hfresh⟩
  · exact .inr ⟨c, hold, .refl c⟩
  · exact .inl (vacant_of_mem_freshCopies hfresh)

theorem aligned_eq (h : s.routing.Follows s.indices.plan) : s.aligned = s.routing := by
  have hgone : (s.routing.indexNames.toList.filter fun name => !s.indices.contains name) = [] := by
    refine List.filter_eq_nil_iff.2 fun name hn => ?_
    obtain ⟨index, hi, he⟩ := h.known hn
    simpa using SortedBy.contains_iff.2 ⟨index, hi, he⟩
  have hnew : ∀ new : List Index, (∀ index ∈ new, index ∈ s.indices ∧ index.name ∉ s.routing.indexNames) →
      new.foldl (fun t index => t.addIndex index index.primarySource) s.routing = s.routing := by
    intro new
    induction new with
    | nil => exact fun _ => rfl
    | cons index new ih =>
        intro hnew
        obtain ⟨⟨hi, hn⟩, hnew⟩ := List.forall_mem_cons.1 hnew
        -- An index without any shard in the table has no shards at all.
        have hzero : index.shards = 0 := by
          by_contra hpos
          have hp : s.indices.plan ⟨index.name, 0⟩ = some index.replicas := by
            rw [IndexTable.plan_of_mem hi rfl, if_pos (Nat.pos_of_ne_zero hpos)]
          obtain ⟨l, hg⟩ := (h ⟨index.name, 0⟩).isSome.1 ⟨_, hp⟩
          exact hn (mem_indexNames_of_get? hg)
        rw [List.foldl_cons, addIndex, hzero]
        exact ih hnew
  rw [aligned, hgone]
  exact hnew _ fun index hm => mem_unrouted.1 hm

theorem syncRouting_eq (h : s.syncRouting.2 = false) : s.syncRouting.1 = s.routing := by
  unfold syncRouting at h ⊢
  dsimp only at h ⊢
  simp only [Bool.or_eq_false_iff, Bool.not_eq_false', List.isEmpty_iff] at h
  obtain ⟨⟨hgone, hnew⟩, hdeparted⟩ := h
  rw [hdeparted, List.foldl_nil, hnew, List.foldl_nil, hgone, List.foldl_nil]

end ClusterState

end ClusterControl
