import ClusterControl.Proofs.Allocation.Attendance
import ClusterControl.Proofs.Allocation.Verdict

/-!
Where the rules keep a copy off the nodes of the other copies of its shard, no two copies of a shard have a node
in common, neither one that they are on nor one that they move to, in any state that runs reach.
-/

namespace ClusterControl

namespace Rules

variable {r : Round} {c d : ShardCopy} {node : Node}

/-- The rule looks at all copies of the shard in the table of the moment. -/
theorem sameShard_isYes (h : (sameShard.allocate r c node).isYes = true) (hd : d ∈ r.routing.copies c.shard)
    (hn : d.sameCopy c = false) : node.id ∉ d.places := by
  intro hid
  have hthere : (d.isOn node.id || d.isMovingTo node.id) = true := ShardCopy.mem_places_iff_isOn.1 hid
  simp only [sameShard] at h
  split at h
  case h_1 => cases h
  case h_2 hnone => simpa [hn, hthere] using List.find?_eq_none.1 hnone d hd

end Rules

namespace Balance

variable {chain : Chain} {r next : Round}

theorem Step.spread (h : Step chain r next) (hm : Rules.sameShard ∈ chain) (hw : r.routing.WellFormed)
    (hs : r.routing.Spread) : next.routing.Spread := by
  obtain ⟨c, target, advanced, hc, _, hy, hl, rfl⟩ := h.lands
  obtain ⟨hshard, hnumber⟩ := ShardCopy.sameCopy_iff.1 hl.advances.sameCopy
  have hrule : (Rules.sameShard.allocate r c target).isYes = true := Chain.combine_isYes.1 hy _ hm
  -- The copy takes one node more, and none of the others is there.
  have hadvanced : ∀ d, r.routing.Has d → advanced.shard = d.shard → advanced.number ≠ d.number →
      advanced.places.Disjoint d.places := by
    intro d hd hds hdn id hid hid'
    rw [← hshard] at hds
    rw [← hnumber] at hdn
    rcases hl.places hid with hold | rfl
    · exact hs c d hc hd hds hdn hold hid'
    · have hne : d.sameCopy c = false := by simp [ShardCopy.sameCopy, hdn.symm]
      exact Rules.sameShard_isYes hrule (hds ▸ hd.mem) hne hid'
  intro d e hd he hde hn
  rw [Round.update_routing] at hd he
  rcases (hc.update_iff hw hl.advances.sameCopy).1 hd with rfl | ⟨hd', _⟩
  · rcases (hc.update_iff hw hl.advances.sameCopy).1 he with rfl | ⟨he', _⟩
    · exact absurd rfl hn
    · exact hadvanced e he' hde hn
  · rcases (hc.update_iff hw hl.advances.sameCopy).1 he with rfl | ⟨he', _⟩
    · exact List.disjoint_symm (hadvanced d hd' hde.symm hn.symm)
    · exact hs d e hd' he' hde hn

end Balance

namespace Chain

variable {chain : Chain} {s : ClusterState}

theorem preserves_spread (hm : Rules.sameShard ∈ chain) : chain.Preserves RoutingTable.Spread :=
  ⟨fun _ _ h => h.spread, fun _ _ h => h.spread hm⟩

/-- In every state that a run reaches under the rule, different copies of a shard are on different nodes, those
that they move to included. -/
theorem Reaches.copies_apart (hm : Rules.sameShard ∈ chain) (h : chain.Reaches s) (shard : ShardId) :
    (s.routing.copies shard).Pairwise fun c d => c.places.Disjoint d.places := by
  have hspread : s.routing.Spread := by
    refine h.holds (preserves_spread hm) ?_
    exact fun c _ hc => absurd hc RoutingTable.not_has_empty
  have hw : s.routing.WellFormed := h.sound.wellFormed
  refine (List.pairwise_map.1 (hw.distinct shard)).imp_of_mem ?_
  intro c d hc hd hn
  exact hspread c d (hw.has_of_mem hc) (hw.has_of_mem hd) ((hw.own shard c hc).trans (hw.own shard d hd).symm) hn

/-- A replica recovers on the node that has joined, away from its primary. -/
theorem logs_apart_once_joined :
    Rules.sameShard ∈ Rules.builtin ∧
      ∃ s, ClusterState.logsJoined 1 = .ok s ∧ Rules.builtin.Reaches s ∧
        (s.routing.copies ⟨"logs", 0⟩).map ShardCopy.places = [["a"], ["b"]] ∧
        (s.routing.copies ⟨"logs", 0⟩).Pairwise fun c d => c.places.Disjoint d.places := by
  have hm : Rules.sameShard ∈ Rules.builtin := by simp [Rules.builtin]
  have hplaces : (ClusterState.logsJoined 1).toOption.map (fun s =>
      (s.routing.copies ⟨"logs", 0⟩).map ShardCopy.places) = some [["a"], ["b"]] := by decide +kernel
  obtain ⟨s, hs, hapart⟩ := ok_of_map hplaces
  have hr : Rules.builtin.Reaches s := ClusterState.logsJoined_reached hs
  exact ⟨hm, s, hs, hr, hapart, hr.copies_apart hm ⟨"logs", 0⟩⟩

end Chain

end ClusterControl
