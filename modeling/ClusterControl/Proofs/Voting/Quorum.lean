import ClusterControl.Proofs.Ordered.Sets
import ClusterControl.Voting.Configuration
import Mathlib.Data.Finset.Card

/-!
Quorums. A list of votes decides if more than half of the configuration is among them, so two lists that
decide have a voter in common.
-/

namespace ClusterControl

namespace SortedSet

variable {κ : Type} [KeyOrder κ] [DecidableEq κ]

theorem card_toFinset (s : SortedSet κ) : s.toList.toFinset.card = s.size :=
  List.toFinset_card_of_nodup s.nodup_toList

end SortedSet

namespace VotingConfiguration

/-- The votes that count, each once. -/
def counted (c : VotingConfiguration) (votes : List NodeId) : Finset NodeId :=
  votes.toFinset.filter fun id => c.contains id = true

variable {c : VotingConfiguration} {votes others : List NodeId} {id : NodeId}

theorem mem_counted : id ∈ c.counted votes ↔ id ∈ votes ∧ c.contains id = true := by
  rw [counted, Finset.mem_filter, List.mem_toFinset]

theorem counted_subset : c.counted votes ⊆ c.toList.toFinset := by
  intro id h
  rw [List.mem_toFinset]
  exact SortedSet.contains_iff_mem.1 (mem_counted.1 h).2

theorem hasQuorum_iff : c.hasQuorum votes = true ↔ c.size < (c.counted votes).card * 2 := by
  have he : c.counted votes = (SortedSet.inter (.ofList votes) c.ids).toList.toFinset := by
    ext id
    rw [mem_counted, List.mem_toFinset, ← SortedBy.mem_iff, SortedSet.mem_inter, SortedSet.mem_ofList, contains,
      SortedSet.contains_iff_mem]
  rw [he, SortedSet.card_toFinset]
  exact decide_eq_true_iff

/-- What counts on one side and on the other does not fit into the configuration without a common voter. -/
theorem exists_common_vote (h : c.hasQuorum votes = true) (h' : c.hasQuorum others = true) :
    ∃ id ∈ votes, id ∈ others ∧ c.contains id = true := by
  rw [hasQuorum_iff] at h h'
  have hunion : (c.counted votes ∪ c.counted others).card ≤ c.size := by
    have hle := Finset.card_le_card (Finset.union_subset (@counted_subset c votes) (@counted_subset c others))
    exact hle.trans (SortedSet.card_toFinset c.ids).le
  have hsum := Finset.card_union_add_card_inter (c.counted votes) (c.counted others)
  have hpos : 0 < (c.counted votes ∩ c.counted others).card := by omega
  obtain ⟨id, hid⟩ := Finset.card_pos.1 hpos
  obtain ⟨hv, ho⟩ := Finset.mem_inter.1 hid
  exact ⟨id, (mem_counted.1 hv).1, (mem_counted.1 ho).1, (mem_counted.1 hv).2⟩

/-- A list of votes has a quorum exactly if as many of its votes count, each once, as the quorum takes. Two
lists that have one share a vote that counts: disjoint lists never decide both, and in an empty
configuration none decides. -/
theorem quorums_meet (c : VotingConfiguration) (votes others : List NodeId) :
    (c.hasQuorum votes = true ↔ c.quorumSize ≤ (c.counted votes).card) ∧
      (c.hasQuorum votes = true → c.hasQuorum others = true →
        ∃ id ∈ votes, id ∈ others ∧ c.contains id = true) ∧
      (votes.Disjoint others → c.hasQuorum votes = false ∨ c.hasQuorum others = false) ∧
      (c.isEmpty = true → c.hasQuorum votes = false) := by
  refine ⟨?_, exists_common_vote, ?_, ?_⟩
  · rw [hasQuorum_iff, quorumSize]
    omega
  · intro hd
    by_contra hn
    simp only [not_or, Bool.not_eq_false] at hn
    obtain ⟨id, hv, ho, _⟩ := exists_common_vote hn.1 hn.2
    exact hd hv ho
  · intro he
    rw [← Bool.not_eq_true]
    intro hq
    obtain ⟨id, _, _, hc⟩ := exists_common_vote hq hq
    have hm : id ∈ c.ids.toList := SortedSet.contains_iff_mem.1 hc
    rw [List.isEmpty_iff.1 he] at hm
    cases hm

/-- Of three voters the first two decide, and so do the last two; a vote given twice or from outside does
not help the first alone. -/
theorem two_of_three_meet :
    let c := ofIds ["n1", "n2", "n3"]
    c.hasQuorum ["n1", "n1", "n4"] = false ∧ ∃ id ∈ ["n2", "n1"], id ∈ ["n3", "n2"] ∧ c.contains id = true := by
  intro c
  obtain ⟨_, hmeet, _⟩ := quorums_meet c ["n2", "n1"] ["n3", "n2"]
  exact ⟨by decide, hmeet (by decide) (by decide)⟩

end VotingConfiguration

end ClusterControl
