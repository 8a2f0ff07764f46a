import ClusterControl.Proofs.Ordered.Sets
import ClusterControl.Voting.Exclusion

/-!
Who votes in a configuration that was changed by one node or made anew from a directory.
-/

namespace ClusterControl

namespace VotingConfiguration

variable {c : VotingConfiguration} {id other : NodeId}

theorem contains_insert : (c.insert other).contains id = true ↔ id = other ∨ c.contains id = true := by
  simp only [contains, insert, SortedSet.contains_iff_mem, SortedSet.mem_insert]

theorem contains_without : (c.without [other]).contains id = true ↔ c.contains id = true ∧ id ≠ other := by
  simp only [contains, without, List.foldl_cons, List.foldl_nil, SortedSet.contains_iff_mem,
    SortedBy.mem_erase]

theorem contains_ofNodes {nodes : List Node} :
    (ofNodes nodes).contains id = true ↔ ∃ node ∈ nodes, node.id = id := by
  simp only [contains, ofNodes, ofIds, SortedSet.contains_iff_mem, SortedSet.mem_ofList, List.mem_map]

/-- A new configuration looks at ids only: a name without an id keeps nobody out. -/
theorem contains_ofLiveNodes {d : Directory} {exclusions : List Exclusion} :
    (ofLiveNodes d exclusions).contains id = true ↔
      ∃ node ∈ d.toList, node.id = id ∧ node.isMasterEligible = true ∧
        ∀ e ∈ exclusions, e.nodeId ≠ some id := by
  simp only [ofLiveNodes, contains_ofNodes, Directory.masterEligible, List.mem_filter]
  constructor
  · rintro ⟨node, ⟨⟨hd, hm⟩, he⟩, rfl⟩
    refine ⟨node, hd, rfl, hm, ?_⟩
    simpa using he
  · rintro ⟨node, hd, rfl, hm, he⟩
    refine ⟨node, ⟨⟨hd, hm⟩, ?_⟩, rfl⟩
    simpa using he

end VotingConfiguration

namespace Exclusion

variable {e : Exclusion} {node : Node}

theorem selects_of_nodeId (h : e.nodeId = some node.id) : e.selects node = true := by
  simp [selects, h]

theorem nodeId_of_selects {id : NodeId} (hid : e.nodeId = some id) (h : e.selects node = true) :
    id = node.id := by
  simpa [selects, hid] using h

end Exclusion

end ClusterControl
