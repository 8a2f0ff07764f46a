import ClusterControl.Proofs.Routing.Alignment

/-!
How routing tables come about. A table begins empty, and from then on indices are added and removed and the values
of copies replaced. So every copy stands under its own shard, and no two copies of a shard have the same number,
whatever values the copies were given. A table that is read back from a document is taken to be one of these: the
derived decoder checks nothing, and nothing here is said about a document that was written by hand.
-/

namespace ClusterControl

namespace RoutingTable

variable {t : RoutingTable} {index : Index} {source : RecoverySource} {name : String}

/-- The tables that the operations on tables lead to. -/
inductive Built : RoutingTable → Prop
  | empty : Built .empty
  | addIndex {t : RoutingTable} (h : Built t) (index : Index) (source : RecoverySource) : Built (t.addIndex index source)
  | removeIndex {t : RoutingTable} (h : Built t) (name : String) : Built (t.removeIndex name)
  | update {t : RoutingTable} (h : Built t) (c : ShardCopy) : Built (t.update c)

theorem wellFormed_of_copies
    (h : ∀ shard, (∀ c ∈ t.copies shard, c.shard = shard) ∧ ((t.copies shard).map ShardCopy.number).Nodup) :
    t.WellFormed :=
  ⟨fun shard => (h shard).1, fun shard => (h shard).2⟩

theorem wellFormed_empty : empty.WellFormed :=
  wellFormed_of_copies fun _ => ⟨fun _ hc => absurd hc List.not_mem_nil, List.nodup_nil⟩

theorem WellFormed.addIndex (h : t.WellFormed) : (t.addIndex index source).WellFormed := by
  refine wellFormed_of_copies fun shard => ?_
  rw [copies, get?_addIndex]
  split
  case isTrue =>
    have hs := Staffed.fresh shard index.replicas source
    exact ⟨hs.own, hs.nodup⟩
  case isFalse => exact ⟨h.own shard, h.distinct shard⟩

theorem WellFormed.removeIndex (h : t.WellFormed) : (t.removeIndex name).WellFormed := by
  refine wellFormed_of_copies fun shard => ?_
  rw [copies, get?_removeIndex]
  split
  case isTrue => exact ⟨fun _ hc => absurd hc List.not_mem_nil, List.nodup_nil⟩
  case isFalse => exact ⟨h.own shard, h.distinct shard⟩

theorem Built.wellFormed (h : t.Built) : t.WellFormed := by
  induction h with
  | empty => exact wellFormed_empty
  | addIndex _ index source ih => exact ih.addIndex
  | removeIndex _ name ih => exact ih.removeIndex
  | update _ c ih => exact ih.update c

end RoutingTable

namespace ClusterState

open RoutingTable

variable {s : ClusterState}

theorem aligned_wellFormed (h : s.routing.WellFormed) : s.aligned.WellFormed := by
  unfold aligned
  refine List.foldlRecOn (motive := WellFormed) _ _ ?_ fun t ht _ _ => ht.addIndex
  exact List.foldlRecOn (motive := WellFormed) _ _ h fun t ht _ _ => ht.removeIndex

theorem aligned_settled_wellFormed (h : s.routing.WellFormed) (hf : s.routing.Fits) :
    (s.aligned.settled s.directory).WellFormed :=
  settled_wellFormed (aligned_wellFormed h) ((yields_aligned h).fits hf)

end ClusterState

end ClusterControl
