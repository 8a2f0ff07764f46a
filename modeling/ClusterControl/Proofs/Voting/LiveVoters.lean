import ClusterControl.Proofs.Voting.Accumulation
import ClusterControl.Proofs.Voting.NameExclusion

/-!
Who votes without being allowed to. A node that joins under an id that votes takes the vote over with
the id, whatever its roles. It keeps the vote until its id leaves, another node takes its place, or the
configuration is made anew from the directory.
-/

namespace ClusterControl

namespace ClusterState

/-- The node is there and its id votes, though a node of its roles may not. -/
structure VotesUnduly (s : ClusterState) (node : Node) : Prop where
  present : node ∈ s.directory.toList
  votes : s.coordination.accepted.contains node.id = true
  ineligible : node.isMasterEligible = false

/-- Whoever votes is a node that is there and may vote. -/
def VotersEligible (s : ClusterState) : Prop :=
  ∀ id, s.coordination.accepted.contains id = true →
    ∃ node ∈ s.directory.toList, node.id = id ∧ node.isMasterEligible = true

variable {s : ClusterState} {node other : Node} {id : NodeId}

theorem votersEligible_iff : s.VotersEligible ↔ s.VotersPresent ∧ ∀ node, ¬ s.VotesUnduly node := by
  constructor
  · intro h
    refine ⟨?_, ?_⟩
    · intro id hv
      obtain ⟨node, hn, he, _⟩ := h id hv
      exact Directory.contains_iff.2 ⟨node, hn, he⟩
    · intro node hu
      obtain ⟨other, ho, he, hm⟩ := h node.id hu.votes
      rw [Directory.eq_of_id_eq ho hu.present he, hu.ineligible] at hm
      cases hm
  · rintro ⟨hp, hu⟩ id hv
    obtain ⟨node, hn, rfl⟩ := Directory.contains_iff.1 (hp id hv)
    refine ⟨node, hn, rfl, ?_⟩
    by_contra hm
    exact hu node ⟨hn, hv, Bool.eq_false_iff.2 hm⟩

theorem votersEligible_bootstrap (d : Directory) : (bootstrap d).VotersEligible := by
  intro id hv
  obtain ⟨node, hm, he⟩ := VotingConfiguration.contains_ofNodes.1 hv
  obtain ⟨hn, hm⟩ := List.mem_filter.1 hm
  exact ⟨node, hn, he, hm⟩

theorem votersEligible_withExclusions (s : ClusterState) (exclusions : ExclusionSet) :
    (s.withExclusions exclusions).VotersEligible := by
  intro id hv
  obtain ⟨node, hn, he, hm, _⟩ := withExclusions_accepted.1 hv
  exact ⟨node, hn, he, hm⟩

theorem votesUnduly_join : (s.join other).VotesUnduly node ↔
    node = other ∧ s.coordination.accepted.contains node.id = true ∧ node.isMasterEligible = false ∨
      node.id ≠ other.id ∧ s.VotesUnduly node := by
  constructor
  · rintro ⟨hp, hv, hm⟩
    rcases Directory.mem_insert.1 hp with rfl | ⟨hp, hne⟩
    · rcases join_accepted.1 hv with hv | ⟨_, he, _⟩
      · exact .inl ⟨rfl, hv, hm⟩
      · -- a node whose id is new to the configuration may vote
        rw [hm] at he
        cases he
    · rcases join_accepted.1 hv with hv | ⟨he, _⟩
      · exact .inr ⟨hne, hp, hv, hm⟩
      · exact absurd he hne
  · rintro (⟨rfl, hv, hm⟩ | ⟨hne, hp, hv, hm⟩)
    · exact ⟨Directory.mem_insert.2 (.inl rfl), join_accepted.2 (.inl hv), hm⟩
    · exact ⟨Directory.mem_insert.2 (.inr ⟨hp, hne⟩), join_accepted.2 (.inl hv), hm⟩

theorem votesUnduly_leave : (s.leave id).VotesUnduly node ↔ node.id ≠ id ∧ s.VotesUnduly node := by
  constructor
  · rintro ⟨hp, hv, hm⟩
    obtain ⟨hp, hne⟩ := Directory.mem_erase.1 hp
    exact ⟨hne, hp, (leave_accepted.1 hv).1, hm⟩
  · rintro ⟨hne, hp, hv, hm⟩
    exact ⟨Directory.mem_erase.2 ⟨hp, hne⟩, leave_accepted.2 ⟨hv, hne⟩, hm⟩

end ClusterState

namespace Publication

/-- A node that may not vote joins under an id that votes. -/
structure Demotes (p : Publication) (node : Node) : Prop where
  joins : p.task = .join node
  voted : p.before.coordination.accepted.contains node.id = true
  ineligible : node.isMasterEligible = false

/-- The id of the node leaves, another node takes it, or the configuration is made anew. -/
inductive Displaces (p : Publication) (node : Node) : Prop
  | left (ht : p.task = .leave node.id)
  | replaced (other : Node) (he : other.id = node.id) (hne : other ≠ node) (ht : p.task = .join other)
  | excluded (h : p.Excludes)
  | cleared (ht : p.task = .clear)

variable {p : Publication} {change : Change} {next : ClusterState} {node other : Node} {id : NodeId}

theorem Enacts.votesUnduly_iff (h : p.Enacts change next) :
    p.state.VotesUnduly node ↔ next.VotesUnduly node := by
  constructor
  · rintro ⟨hp, hv, hm⟩
    exact ⟨h.directory ▸ hp, h.accepted ▸ hv, hm⟩
  · rintro ⟨hp, hv, hm⟩
    exact ⟨h.directory ▸ hp, h.accepted ▸ hv, hm⟩

theorem Enacts.votesUnduly_join (h : p.Enacts (.join other) next) : p.state.VotesUnduly node ↔
    p.Demotes node ∧ node = other ∨ node.id ≠ other.id ∧ p.before.VotesUnduly node := by
  rw [h.votesUnduly_iff]
  have ht := h.task
  cases h.makes with
  | join =>
      rw [ClusterState.votesUnduly_join]
      refine or_congr_left ⟨?_, ?_⟩
      · rintro ⟨rfl, hv, hm⟩
        exact ⟨⟨ht, hv, hm⟩, rfl⟩
      · rintro ⟨hd, rfl⟩
        exact ⟨rfl, hd.voted, hd.ineligible⟩

theorem Enacts.votesUnduly_leave (h : p.Enacts (.leave id) next) :
    p.state.VotesUnduly node ↔ node.id ≠ id ∧ p.before.VotesUnduly node := by
  rw [h.votesUnduly_iff]
  cases h.makes with
  | leave => exact ClusterState.votesUnduly_leave

theorem Enacts.not_votesUnduly (h : p.Enacts change next)
    (hc : change = .clear ∨ ∃ request, change = .exclude request) : ¬ p.state.VotesUnduly node := by
  rw [h.votesUnduly_iff]
  cases h.makes with
  | join | leave => simp at hc
  | exclude | clear =>
      exact (ClusterState.votersEligible_iff.1 (ClusterState.votersEligible_withExclusions _ _)).2 node

theorem Regular.demotes (hp : p.Regular) (hs : p.state.VotesUnduly node)
    (hb : ¬ p.before.VotesUnduly node) : p.Demotes node := by
  obtain ⟨change, ht⟩ := hp.change
  obtain ⟨_, h⟩ := hp.enacts ht
  cases change with
  | join other =>
      rcases h.votesUnduly_join.1 hs with ⟨hd, _⟩ | ⟨_, hu⟩
      · exact hd
      · exact absurd hu hb
  | leave id => exact absurd (h.votesUnduly_leave.1 hs).2 hb
  | exclude request => exact absurd hs (h.not_votesUnduly (.inr ⟨request, rfl⟩))
  | clear => exact absurd hs (h.not_votesUnduly (.inl rfl))

/-- What displaces no node leaves it the vote that it took. -/
theorem Regular.keeps_vote (hp : p.Regular) (hd : ¬ p.Displaces node)
    (hb : p.before.VotesUnduly node) : p.state.VotesUnduly node := by
  obtain ⟨change, ht⟩ := hp.change
  obtain ⟨_, h⟩ := hp.enacts ht
  cases change with
  | join other =>
      rw [h.votesUnduly_join]
      by_cases he : node.id = other.id
      · -- the node may join a second time
        by_cases hn : other = node
        · subst hn
          exact .inl ⟨⟨ht, hb.votes, hb.ineligible⟩, rfl⟩
        · exact absurd (.replaced other he.symm hn ht) hd
      · exact .inr ⟨he, hb⟩
  | leave id =>
      refine h.votesUnduly_leave.2 ⟨?_, hb⟩
      rintro rfl
      exact hd (.left ht)
  | exclude request => exact absurd (.excluded ⟨request, ht⟩) hd
  | clear => exact absurd (.cleared ht) hd

theorem Displaces.not_votesUnduly (h : p.Displaces node) (hp : p.Regular) : ¬ p.state.VotesUnduly node := by
  cases h with
  | left ht =>
      obtain ⟨_, he⟩ : ∃ next, p.Enacts (.leave node.id) next := hp.enacts ht
      rw [he.votesUnduly_leave]
      exact fun h => h.1 rfl
  | replaced other hid hne ht =>
      obtain ⟨_, he⟩ : ∃ next, p.Enacts (.join other) next := hp.enacts ht
      rw [he.votesUnduly_join]
      rintro (⟨_, rfl⟩ | ⟨hid', _⟩)
      · exact hne rfl
      · exact hid' hid.symm
  | excluded h =>
      obtain ⟨request, ht⟩ := h
      obtain ⟨_, he⟩ : ∃ next, p.Enacts (.exclude request) next := hp.enacts ht
      exact he.not_votesUnduly (.inr ⟨request, rfl⟩)
  | cleared ht =>
      obtain ⟨_, he⟩ : ∃ next, p.Enacts .clear next := hp.enacts ht
      exact he.not_votesUnduly (.inl rfl)

theorem Demotes.votesUnduly (h : p.Demotes node) (hp : p.Regular) : p.state.VotesUnduly node := by
  obtain ⟨_, he⟩ : ∃ next, p.Enacts (.join node) next := hp.enacts h.joins
  exact he.votesUnduly_join.2 (.inl ⟨h, rfl⟩)

end Publication

/-- A node took a vote with its id, and nothing displaced it since. -/
def TookVote (history : List Publication) (node : Node) : Prop :=
  ∃ older p recent, history = older ++ p :: recent ∧ p.Demotes node ∧ ∀ q ∈ recent, ¬ q.Displaces node

namespace Linked

variable {first last : ClusterState} {history : List Publication} {node : Node}

theorem tookVote_of_votesUnduly (h : Linked first history last) (hr : ∀ p ∈ history, p.Regular)
    (hf : ¬ first.VotesUnduly node) (hl : last.VotesUnduly node) : TookVote history node := by
  rcases h.since (P := (·.VotesUnduly node)) hl with ⟨hu, _⟩ | ⟨older, p, recent, rfl, hb, hs⟩
  · exact absurd hu hf
  · -- since `p` the vote was undue all along, which it is not after the node is displaced
    have hp := hr p (List.mem_append_right older List.mem_cons_self)
    refine ⟨older, p, recent, rfl, hp.demotes (hs p List.mem_cons_self) hb, ?_⟩
    intro q hq hd
    have hq' := List.mem_cons_of_mem p hq
    exact hd.not_votesUnduly (hr q (List.mem_append_right older hq')) (hs q hq')

theorem votesUnduly_of_tookVote (h : Linked first history last) (hr : ∀ p ∈ history, p.Regular)
    (hv : TookVote history node) : last.VotesUnduly node := by
  obtain ⟨older, p, recent, rfl, hd, hn⟩ := hv
  obtain ⟨middle, _, hl⟩ := h.split
  cases hl with
  | cons _ hl =>
      have hp := hd.votesUnduly (hr p (List.mem_append_right older List.mem_cons_self))
      refine (hl.keeps (P := (·.VotesUnduly node)) hp ?_).1
      intro q hq
      exact (hr q (List.mem_append_right older (List.mem_cons_of_mem p hq))).keeps_vote (hn q hq)

end Linked

/-- A node that holds no role joins under the id of a voter. -/
def Event.demoting : List Event :=
  served 0 [.update (.join (.bare "n3" "node3"))]

theorem Event.demoting_within : ∀ call ∈ calls demoting, call.WithinMembership := by
  rw [demoting, calls_served]
  simp only [List.forall_mem_cons, List.not_mem_nil, false_implies, implies_true, and_true]
  exact ⟨.join (.bare "n3" "node3"), rfl⟩

namespace System

variable {d : Directory} {settings : Settings} {reconcilers : List Reconciler} {events : List Event}

/-- Whoever votes should be a node that is there and may vote; a voter that joins again without the role
still votes. -/
theorem demoted_voter_stays :
    ¬ ∀ d settings reconcilers events, (∀ r ∈ reconcilers, r.KeepsMembership) →
      (∀ call ∈ Event.calls events, call.WithinMembership) →
      ((bootstrap d settings reconcilers).run events).service.state.VotersEligible := by
  intro h
  have hv := (ClusterState.votersEligible_iff.1
    (h .trio .initial _ _ trio_keepsMembership Event.demoting_within)).2 (.bare "n3" "node3")
  exact hv ⟨by decide, by decide, rfl⟩

/-- Whoever votes is there. A node votes without being allowed to exactly if it joined under an id that
voted, and since then its id did not leave, no other node took it and the configuration was not made
anew. Where no node joins so, whoever votes is there and may vote. -/
theorem undue_vote_from_demotion (hr : ∀ r ∈ reconcilers, r.KeepsMembership)
    (hc : ∀ call ∈ Event.calls events, call.WithinMembership) :
    let sys := bootstrap d settings reconcilers
    let s := (sys.run events).service.state
    s.VotersPresent ∧ (∀ node, s.VotesUnduly node ↔ TookVote (sys.history events) node) ∧
      ((∀ p ∈ sys.history events, ∀ node, ¬ p.Demotes node) → s.VotersEligible) := by
  intro sys s
  have hl := history_linked sys events
  have hreg : ∀ p ∈ sys.history events, p.Regular := history_regular hr hc
  have hpresent : s.VotersPresent :=
    (bootstrap_keeps hr hc (ClusterState.votersPresent_bootstrap d) fun _ _ _ he hb => he.votersPresent hb).1
  have hundue : ∀ node, s.VotesUnduly node ↔ TookVote (sys.history events) node := by
    intro node
    have hf := (ClusterState.votersEligible_iff.1 (ClusterState.votersEligible_bootstrap d)).2 node
    exact ⟨hl.tookVote_of_votesUnduly hreg hf, hl.votesUnduly_of_tookVote hreg⟩
  refine ⟨hpresent, hundue, ?_⟩
  intro hd
  refine ClusterState.votersEligible_iff.2 ⟨hpresent, ?_⟩
  intro node hu
  obtain ⟨older, p, recent, he, hp, _⟩ := (hundue node).1 hu
  exact hd p (he ▸ List.mem_append_right older List.mem_cons_self) node hp

theorem demotion_leaves_vote :
    (trio.run Event.demoting).service.state.VotesUnduly (.bare "n3" "node3") := by
  obtain ⟨_, h, _⟩ := @undue_vote_from_demotion .trio .initial _ _ trio_keepsMembership Event.demoting_within
  obtain ⟨p, hh, ht, hv⟩ : ∃ p, trio.history Event.demoting = [p] ∧ p.task = .join (.bare "n3" "node3") ∧
      p.before.coordination.accepted.contains "n3" = true :=
    ⟨_, rfl, rfl, rfl⟩
  refine (h _).2 ⟨[], p, [], hh, ⟨ht, hv, rfl⟩, ?_⟩
  intro q hq
  cases hq

end System

end ClusterControl
