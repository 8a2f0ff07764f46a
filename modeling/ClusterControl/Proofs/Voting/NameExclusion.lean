import ClusterControl.Proofs.Voting.LastingExclusion

/-!
Exclusions by name. A name without an id keeps a node out only when the node joins: the next exclusion
that is added makes the configuration anew from the ids that are excluded, and the node votes. And a node
that joins under an id that votes keeps the vote of the id, whatever its name.
-/

namespace ClusterControl

/-- The exclusion carries the id of the node. -/
def Exclusion.Identifies (e : Exclusion) (node : Node) : Prop :=
  e.nodeId = some node.id

namespace ClusterState

/-- The node is there, and votes if it may, unless a stored exclusion keeps it out. -/
structure VotesUnless (s : ClusterState) (node : Node) (keepsOut : Exclusion → Prop) : Prop where
  present : node ∈ s.directory.toList
  votes : s.coordination.accepted.contains node.id = true ↔
    node.isMasterEligible = true ∧ ∀ e ∈ s.coordination.exclusions, ¬ keepsOut e

/-- Whoever votes is there. -/
def VotersPresent (s : ClusterState) : Prop :=
  ∀ id, s.coordination.accepted.contains id = true → s.directory.contains id = true

variable {s : ClusterState} {node other : Node} {id : NodeId} {keepsOut : Exclusion → Prop}

theorem votersPresent_bootstrap (d : Directory) : (bootstrap d).VotersPresent := by
  intro id hv
  obtain ⟨node, hm, rfl⟩ := VotingConfiguration.contains_ofNodes.1 hv
  exact Directory.contains_iff.2 ⟨node, (List.mem_filter.1 hm).1, rfl⟩

theorem VotersPresent.join (h : s.VotersPresent) (node : Node) : (s.join node).VotersPresent := by
  intro id hv
  rw [join_directory, Directory.contains_iff]
  by_cases he : id = node.id
  · exact ⟨node, Directory.mem_insert.2 (.inl rfl), he.symm⟩
  · rcases join_accepted.1 hv with hv | ⟨hid, _⟩
    · obtain ⟨other, ho, rfl⟩ := Directory.contains_iff.1 (h id hv)
      exact ⟨other, Directory.mem_insert.2 (.inr ⟨ho, he⟩), rfl⟩
    · exact absurd hid he

theorem VotersPresent.leave (h : s.VotersPresent) (id : NodeId) : (s.leave id).VotersPresent := by
  intro other hv
  obtain ⟨hv, hne⟩ := leave_accepted.1 hv
  obtain ⟨node, hn, rfl⟩ := Directory.contains_iff.1 (h other hv)
  exact Directory.contains_iff.2 ⟨node, Directory.mem_erase.2 ⟨hn, hne⟩, rfl⟩

theorem votersPresent_withExclusions (s : ClusterState) (exclusions : ExclusionSet) :
    (s.withExclusions exclusions).VotersPresent := by
  intro id hv
  obtain ⟨node, hn, hid, _⟩ := withExclusions_accepted.1 hv
  exact Directory.contains_iff.2 ⟨node, hn, hid⟩

/-- A new configuration heeds the ids of the exclusions and nothing else. -/
theorem votesUnless_withExclusions (h : node ∈ s.directory.toList) (exclusions : ExclusionSet) :
    (s.withExclusions exclusions).VotesUnless node (·.Identifies node) := by
  refine ⟨h, ?_⟩
  rw [withExclusions_accepted]
  constructor
  · rintro ⟨other, ho, he, hm, hx⟩
    obtain rfl := Directory.eq_of_id_eq ho h he
    exact ⟨hm, hx⟩
  · rintro ⟨hm, hx⟩
    exact ⟨node, h, rfl, hm, hx⟩

theorem votesUnless_cleared (h : node ∈ s.directory.toList) :
    (s.withExclusions .empty).VotesUnless node keepsOut := by
  refine ⟨h, ?_⟩
  rw [(votesUnless_withExclusions h .empty).votes]
  simp

/-- A node that joins is kept out by whatever selects it. -/
theorem votesUnless_join (h : s.VotersPresent) (hn : s.directory.contains node.id = false) :
    (s.join node).VotesUnless node (·.selects node = true) := by
  refine ⟨Directory.mem_insert.2 (.inl rfl), ?_⟩
  have hv : s.coordination.accepted.contains node.id = false := by
    rw [Bool.eq_false_iff]
    intro hv
    rw [h node.id hv] at hn
    cases hn
  simp only [join_accepted, join_exclusions, hv, Bool.false_eq_true, false_or, true_and, Bool.not_eq_true]

theorem VotesUnless.join (h : s.VotesUnless node keepsOut) (hne : other.id ≠ node.id) :
    (s.join other).VotesUnless node keepsOut := by
  refine ⟨Directory.mem_insert.2 (.inr ⟨h.present, hne.symm⟩), ?_⟩
  have hid : ¬ node.id = other.id := hne.symm
  rw [join_exclusions, join_accepted, ← h.votes]
  simp only [hid, false_and, or_false]

theorem VotesUnless.leave (h : s.VotesUnless node keepsOut) (hne : id ≠ node.id) :
    (s.leave id).VotesUnless node keepsOut := by
  refine ⟨Directory.mem_erase.2 ⟨h.present, hne.symm⟩, ?_⟩
  rw [leave_exclusions, ← h.votes, leave_accepted]
  exact ⟨fun hv => hv.1, fun hv => ⟨hv, hne.symm⟩⟩

theorem votesUnless_bootstrap {d : Directory} (h : node ∈ d.toList) :
    (bootstrap d).VotesUnless node keepsOut := by
  refine ⟨h, ?_⟩
  have hv : (bootstrap d).coordination.accepted.contains node.id = true ↔ node.isMasterEligible = true := by
    constructor
    · intro hv
      obtain ⟨other, ho, he⟩ := VotingConfiguration.contains_ofNodes.1 hv
      obtain ⟨ho, hm⟩ := List.mem_filter.1 ho
      rwa [← Directory.eq_of_id_eq ho h he]
    · intro hm
      exact VotingConfiguration.contains_ofNodes.2 ⟨node, List.mem_filter.2 ⟨h, hm⟩, rfl⟩
  rw [hv]
  have hx : ∀ e ∈ (bootstrap d).coordination.exclusions, ¬ keepsOut e := by
    intro e he
    exact absurd he (SortedBy.not_mem_empty e)
  exact ⟨fun hm => ⟨hm, hx⟩, fun hm => hm.1⟩

end ClusterState

namespace Change

variable {settings : Settings} {s next : ClusterState} {change : Change} {node : Node}

theorem Makes.votersPresent (h : change.Makes settings s next) (hs : s.VotersPresent) : next.VotersPresent := by
  cases h with
  | join node => exact hs.join node
  | leave id => exact hs.leave id
  | exclude | clear => exact ClusterState.votersPresent_withExclusions s _

end Change

namespace Publication

/-- A node of this id joins or leaves. -/
def Concerns (p : Publication) (id : NodeId) : Prop :=
  p.task = .leave id ∨ ∃ node, node.id = id ∧ p.task = .join node

/-- The accepted configuration is made anew from the directory. -/
def Renews (p : Publication) : Prop :=
  p.Excludes ∨ p.task = .clear

variable {p : Publication} {change : Change} {next : ClusterState} {node : Node} {keepsOut : Exclusion → Prop}

theorem Renews.not_concerns (h : p.Renews) (id : NodeId) : ¬ p.Concerns id := by
  rcases h with ⟨request, hr⟩ | hr
  all_goals
    rintro (ht | ⟨node, _, ht⟩)
    all_goals
      have hsource := congrArg Task.source (hr.symm.trans ht)
      simp [Task.exclude, Task.clear, Task.join, Task.leave, Task.always] at hsource

theorem ne_of_join {other : Node} (hp : ¬ p.Concerns node.id) (ht : p.task = .join other) : other.id ≠ node.id :=
  fun he => hp (.inr ⟨other, he, ht⟩)

theorem ne_of_leave {id : NodeId} (hp : ¬ p.Concerns node.id) (ht : p.task = .leave id) : id ≠ node.id := by
  rintro rfl
  exact hp (.inl ht)

/-- The change is whichever has the task that was published. -/
theorem Enacts.of_task {other : Change} (h : p.Enacts change next) (ht : p.task = other.task) :
    p.Enacts other next := by
  have hrun := h.makes.run
  rw [← h.task, ht] at hrun
  exact ⟨ht, Change.makes_of_run hrun, h.directory, h.exclusions, h.accepted, h.committed⟩

theorem Enacts.votesUnless_iff (h : p.Enacts change next) :
    p.state.VotesUnless node keepsOut ↔ next.VotesUnless node keepsOut := by
  constructor
  · intro hv
    exact ⟨h.directory ▸ hv.present, by simpa only [h.accepted, h.exclusions] using hv.votes⟩
  · intro hv
    exact ⟨h.directory ▸ hv.present, by simpa only [h.accepted, h.exclusions] using hv.votes⟩

theorem Enacts.votersPresent (h : p.Enacts change next) (hs : p.before.VotersPresent) : p.state.VotersPresent := by
  have hn := h.makes.votersPresent hs
  intro id hv
  rw [h.directory]
  exact hn id (h.accepted ▸ hv)

/-- A node is there as before, unless one of its id joins or leaves. -/
theorem Enacts.mem_directory (h : p.Enacts change next) (hp : ¬ p.Concerns node.id) :
    node ∈ p.state.directory.toList ↔ node ∈ p.before.directory.toList := by
  rw [h.directory]
  have ht := h.task
  cases h.makes with
  | join other =>
      have hne : node.id ≠ other.id := (ne_of_join hp ht).symm
      rw [ClusterState.join_directory, Directory.mem_insert]
      refine ⟨?_, fun hm => .inr ⟨hm, hne⟩⟩
      rintro (rfl | ⟨hm, _⟩)
      · exact absurd rfl hne
      · exact hm
  | leave id =>
      rw [ClusterState.leave_directory, Directory.mem_erase]
      exact ⟨fun hm => hm.1, fun hm => ⟨hm, (ne_of_leave hp ht).symm⟩⟩
  | exclude | clear => exact Iff.rfl

/-- What keeps a node out stays the same until exclusions are added. -/
theorem Enacts.votesUnless (h : p.Enacts change next) (hp : ¬ p.Concerns node.id) (hx : ¬ p.Excludes)
    (hs : p.before.VotesUnless node keepsOut) : p.state.VotesUnless node keepsOut := by
  rw [h.votesUnless_iff]
  have ht := h.task
  cases h.makes with
  | join => exact hs.join (ne_of_join hp ht)
  | leave => exact hs.leave (ne_of_leave hp ht)
  | exclude request => exact absurd ⟨request, ht⟩ hx
  | clear => exact ClusterState.votesUnless_cleared hs.present

/-- Once the configuration was made anew only ids count. -/
theorem Enacts.votesUnless_of_renews (h : p.Enacts change next) (hx : p.Renews)
    (hs : node ∈ p.before.directory.toList) : p.state.VotesUnless node (·.Identifies node) := by
  rw [h.votesUnless_iff]
  have ht := h.task
  cases h.makes with
  | exclude | clear => exact ClusterState.votesUnless_withExclusions hs _
  | join other => exact absurd (.inr ⟨other, rfl, ht⟩) (hx.not_concerns other.id)
  | leave id => exact absurd (.inl ht) (hx.not_concerns id)

theorem Enacts.votesUnless_id (h : p.Enacts change next) (hp : ¬ p.Concerns node.id)
    (hs : p.before.VotesUnless node (·.Identifies node)) : p.state.VotesUnless node (·.Identifies node) := by
  by_cases hx : p.Renews
  · exact h.votesUnless_of_renews hx hs.present
  · exact h.votesUnless hp (fun he => hx (.inl he)) hs

/-- Others that join or leave change neither the exclusions nor who votes among the rest. -/
theorem Enacts.same_vote (h : p.Enacts change next) (hp : ¬ p.Concerns node.id) (hx : ¬ p.Renews) :
    p.state.coordination.exclusions = p.before.coordination.exclusions ∧
      (p.state.coordination.accepted.contains node.id = true ↔
        p.before.coordination.accepted.contains node.id = true) := by
  rw [h.exclusions, h.accepted]
  have ht := h.task
  cases h.makes with
  | join =>
      exact ⟨ClusterState.join_exclusions, by simp [ClusterState.join_accepted, (ne_of_join hp ht).symm]⟩
  | leave =>
      exact ⟨ClusterState.leave_exclusions, by simp [ClusterState.leave_accepted, (ne_of_leave hp ht).symm]⟩
  | exclude request => exact absurd (.inl ⟨request, ht⟩) hx
  | clear => exact absurd (.inr ht) hx

end Publication

/-- The configuration was made anew after the last time that a node of this id joined or left. -/
def RenewedSince (history : List Publication) (id : NodeId) : Prop :=
  ∃ older p recent, history = older ++ p :: recent ∧ p.Renews ∧ ∀ q ∈ recent, ¬ q.Concerns id

/-- The node joined under an id that voted, and since then neither joined again nor left, nor was the configuration
made anew. -/
def KeptVote (history : List Publication) (node : Node) : Prop :=
  ∃ older p recent, history = older ++ p :: recent ∧ p.task = .join node ∧
    p.before.coordination.accepted.contains node.id = true ∧ ∀ q ∈ recent, ¬ q.Concerns node.id ∧ ¬ q.Renews

theorem renewedSince_of_exists (older : List Publication) {recent : List Publication} {id : NodeId}
    (h : ∃ q ∈ recent, q.Renews) (hc : ∀ q ∈ recent, ¬ q.Concerns id) : RenewedSince (older ++ recent) id := by
  obtain ⟨q, hq, hr⟩ := h
  obtain ⟨before, after, rfl⟩ := List.append_of_mem hq
  refine ⟨older ++ before, q, after, by rw [List.append_assoc], hr, fun x hx => ?_⟩
  exact hc x (List.mem_append_right before (List.mem_cons_of_mem q hx))

/-- What became of the vote of a node that joined by `p` and since then, while `recent` was published, neither joined
again nor left. -/
structure ClusterState.VotesAfter (s : ClusterState) (node : Node) (p : Publication) (recent : List Publication) :
    Prop where
  renewed : (∃ q ∈ recent, q.Renews) → s.VotesUnless node (·.Identifies node)
  kept : (∀ q ∈ recent, ¬ q.Renews) → node ∈ s.directory.toList ∧ (s.coordination.accepted.contains node.id = true ↔
    p.before.coordination.accepted.contains node.id = true ∨
      node.isMasterEligible = true ∧ ∀ e ∈ s.coordination.exclusions, e.selects node = false)
  fresh : p.before.directory.contains node.id = false → (∀ q ∈ recent, ¬ q.Excludes) →
    s.VotesUnless node (·.selects node = true)

/-- The publications of a history after the last one of a kind. -/
theorem exists_last_publication {history : List Publication} {P : Publication → Prop} (h : ∃ p ∈ history, P p) :
    ∃ older p recent, history = older ++ p :: recent ∧ P p ∧ ∀ q ∈ recent, ¬ P q := by
  induction history with
  | nil =>
      obtain ⟨p, hp, _⟩ := h
      cases hp
  | cons p history ih =>
      by_cases hlater : ∃ q ∈ history, P q
      · obtain ⟨older, q, recent, rfl, hq, hrecent⟩ := ih hlater
        exact ⟨p :: older, q, recent, rfl, hq, hrecent⟩
      · obtain ⟨q, hq, hPq⟩ := h
        rcases List.mem_cons.1 hq with rfl | hq
        · exact ⟨[], q, history, rfl, hPq, fun x hx hPx => hlater ⟨x, hx, hPx⟩⟩
        · exact absurd ⟨q, hq, hPq⟩ hlater

namespace Linked

variable {first last : ClusterState} {history : List Publication} {node : Node} {keepsOut : Exclusion → Prop}
  (h : Linked first history last) (hn : ∀ p ∈ history, ∃ change next, p.Enacts change next)
include h hn

theorem votesUnless (hc : ∀ p ∈ history, ¬ p.Concerns node.id) (hx : ∀ p ∈ history, ¬ p.Excludes)
    (hs : first.VotesUnless node keepsOut) : last.VotesUnless node keepsOut :=
  (h.keeps_enacted (P := fun s => s.VotesUnless node keepsOut) hn hs
    (fun p hp _ _ he hb => he.votesUnless (hc p hp) (hx p hp) hb)).1

theorem votesUnless_id (hc : ∀ p ∈ history, ¬ p.Concerns node.id) (hs : first.VotesUnless node (·.Identifies node)) :
    last.VotesUnless node (·.Identifies node) :=
  (h.keeps_enacted (P := fun s => s.VotesUnless node (·.Identifies node)) hn hs
    (fun p hp _ _ he hb => he.votesUnless_id (hc p hp) hb)).1

theorem mem_directory (hc : ∀ p ∈ history, ¬ p.Concerns node.id) :
    node ∈ last.directory.toList ↔ node ∈ first.directory.toList :=
  (h.keeps_enacted (P := fun s => node ∈ s.directory.toList ↔ node ∈ first.directory.toList) hn Iff.rfl
    (fun p hp _ _ he hb => (he.mem_directory (hc p hp)).trans hb)).1

theorem same_vote (hc : ∀ p ∈ history, ¬ p.Concerns node.id ∧ ¬ p.Renews) :
    last.coordination.exclusions = first.coordination.exclusions ∧
      (last.coordination.accepted.contains node.id = true ↔ first.coordination.accepted.contains node.id = true) :=
  (h.keeps_enacted (P := fun s => s.coordination.exclusions = first.coordination.exclusions ∧
      (s.coordination.accepted.contains node.id = true ↔ first.coordination.accepted.contains node.id = true)) hn
    ⟨rfl, Iff.rfl⟩ (fun p hp _ _ he hb =>
      have hsame := he.same_vote (hc p hp).1 (hc p hp).2
      ⟨hsame.1.trans hb.1, hsame.2.trans hb.2⟩)).1

/-- Exclusions by name are forgotten once the configuration is made anew. -/
theorem votesUnless_of_renewed (hr : RenewedSince history node.id) (hp : node ∈ last.directory.toList) :
    last.VotesUnless node (·.Identifies node) := by
  obtain ⟨older, p, recent, rfl, hrenews, hc⟩ := hr
  obtain ⟨middle, _, h⟩ := h.split
  cases h with
  | cons _ h =>
      obtain ⟨change, next, he⟩ := hn p (List.mem_append_right older List.mem_cons_self)
      have hn' := fun q hq => hn q (List.mem_append_right older (List.mem_cons_of_mem p hq))
      have hbefore := (he.mem_directory (hrenews.not_concerns _)).1 ((h.mem_directory hn' hc).1 hp)
      exact h.votesUnless_id hn' hc (he.votesUnless_of_renews hrenews hbefore)

/-- A node that is there was there at first and no one of its id joined or left, or it joined last. -/
theorem arrival (hp : node ∈ last.directory.toList) :
    node ∈ first.directory.toList ∧ (∀ q ∈ history, ¬ q.Concerns node.id) ∨
      ∃ older p recent, history = older ++ p :: recent ∧ p.task = .join node ∧ ∀ q ∈ recent, ¬ q.Concerns node.id := by
  by_cases hc : ∃ p ∈ history, p.Concerns node.id
  case neg =>
    push Not at hc
    exact .inl ⟨(h.mem_directory hn hc).1 hp, hc⟩
  case pos =>
    obtain ⟨older, p, recent, rfl, hconcerns, hrecent⟩ := exists_last_publication hc
    obtain ⟨middle, _, h⟩ := h.split
    cases h with
    | cons _ h =>
        have hn' := fun q hq => hn q (List.mem_append_right older (List.mem_cons_of_mem p hq))
        have hstate := (h.mem_directory hn' hrecent).1 hp
        refine .inr ⟨older, p, recent, rfl, ?_, hrecent⟩
        obtain ⟨change, next, he⟩ := hn p (List.mem_append_right older List.mem_cons_self)
        rw [he.directory] at hstate
        rcases hconcerns with ht | ⟨other, hid, ht⟩
        · have hleave : p.task = (Change.leave node.id).task := ht
          cases (he.of_task hleave).makes with
          | leave => exact absurd rfl (Directory.mem_erase.1 hstate).2
        · have hjoin : p.task = (Change.join other).task := ht
          cases (he.of_task hjoin).makes with
          | join =>
              rcases Directory.mem_insert.1 hstate with rfl | ⟨_, hne⟩
              · exact ht
              · exact absurd hid.symm hne

theorem votesAfter {older recent : List Publication} {p : Publication} (he : history = older ++ p :: recent)
    (hv : first.VotersPresent) (ht : p.task = .join node) (hc : ∀ q ∈ recent, ¬ q.Concerns node.id) :
    last.VotesAfter node p recent := by
  subst he
  have hn' := fun q hq => hn q (List.mem_append_right older (List.mem_cons_of_mem p hq))
  obtain ⟨middle, ho, h⟩ := h.split
  cases h with
  | cons _ h =>
      obtain ⟨change, next, he⟩ := hn p (List.mem_append_right older List.mem_cons_self)
      have hjoin : p.task = (Change.join node).task := ht
      have hj := he.of_task hjoin
      obtain rfl : next = p.before.join node := by
        cases hj.makes
        rfl
      have hthere : node ∈ p.state.directory.toList := hj.directory ▸ Directory.mem_insert.2 (.inl rfl)
      refine ⟨?_, ?_, ?_⟩
      · intro hr
        have hrenewed : RenewedSince recent node.id := renewedSince_of_exists [] hr hc
        exact h.votesUnless_of_renewed hn' hrenewed ((h.mem_directory hn' hc).2 hthere)
      · intro hr
        obtain ⟨hexclusions, hvote⟩ := h.same_vote hn' fun q hq => ⟨hc q hq, hr q hq⟩
        refine ⟨(h.mem_directory hn' hc).2 hthere, ?_⟩
        rw [hvote, hexclusions, hj.accepted, hj.exclusions, ClusterState.join_accepted, ClusterState.join_exclusions]
        simp only [true_and]
      · intro hnew hx
        have hpresent : p.before.VotersPresent :=
          (ho.keeps_enacted (P := ClusterState.VotersPresent) (fun q hq => hn q (List.mem_append_left _ hq)) hv
            (fun _ _ _ _ hq hb => hq.votersPresent hb)).1
        exact h.votesUnless hn' hc hx (hj.votesUnless_iff.2 (ClusterState.votesUnless_join hpresent hnew))

/-- Where nothing was excluded at first, a node that a stored exclusion selects votes exactly if no exclusion carries
its id and it either came before the configuration was made anew, and may vote, or came with its vote after that. -/
theorem excluded_votes_iff (hempty : first.coordination.exclusions = .empty) (hv : first.VotersPresent)
    (hid : last.ExcludesById) (hp : node ∈ last.directory.toList) {e : Exclusion}
    (he : e ∈ last.coordination.exclusions) (hsel : e.selects node = true) :
    last.coordination.accepted.contains node.id = true ↔
      (∀ e ∈ last.coordination.exclusions, ¬ e.Identifies node) ∧
        (node.isMasterEligible = true ∧ RenewedSince history node.id ∨ KeptVote history node) := by
  constructor
  · intro hvote
    have hunidentified : ∀ e ∈ last.coordination.exclusions, ¬ e.Identifies node := by
      intro e he hi
      rw [hid e he node.id hi] at hvote
      cases hvote
    have hrenewed : RenewedSince history node.id → node.isMasterEligible = true ∧ RenewedSince history node.id :=
      fun hr => ⟨((h.votesUnless_of_renewed hn hr hp).votes.1 hvote).1, hr⟩
    refine ⟨hunidentified, ?_⟩
    rcases h.arrival hn hp with ⟨_, hc⟩ | ⟨older, p, recent, hsplit, ht, hc⟩
    · by_cases hr : ∃ q ∈ history, q.Renews
      case pos => exact .inl (hrenewed (renewedSince_of_exists [] hr hc))
      case neg =>
        push Not at hr
        rw [(h.same_vote hn fun q hq => ⟨hc q hq, hr q hq⟩).1, hempty] at he
        exact absurd he (SortedBy.not_mem_empty e)
    · by_cases hr : ∃ q ∈ recent, q.Renews
      case pos =>
        refine .inl (hrenewed ?_)
        rw [hsplit, List.append_cons]
        exact renewedSince_of_exists _ hr hc
      case neg =>
        push Not at hr
        rcases ((h.votesAfter hn hsplit hv ht hc).kept hr).2.1 hvote with hvoted | ⟨_, hnone⟩
        · exact .inr ⟨older, p, recent, hsplit, ht, hvoted, fun q hq => ⟨hc q hq, hr q hq⟩⟩
        · rw [hnone e he] at hsel
          cases hsel
  · rintro ⟨hunidentified, ⟨hm, hr⟩ | ⟨older, p, recent, hsplit, ht, hvoted, hc⟩⟩
    · exact (h.votesUnless_of_renewed hn hr hp).votes.2 ⟨hm, hunidentified⟩
    · have hafter := h.votesAfter hn hsplit hv ht fun q hq => (hc q hq).1
      exact (hafter.kept fun q hq => (hc q hq).2).2.2 (.inl hvoted)

end Linked

/-- A node of an excluded name joins; then another node is excluded. -/
def Event.joiningUnderExcludedName : List Event :=
  served 0 [.exclude (.ofNames ["node4"]), .update (.join (.voter "n4" "node4")), .exclude (.ofIds ["n2"])]

theorem Event.joiningUnderExcludedName_within :
    ∀ call ∈ calls joiningUnderExcludedName, call.WithinMembership := by
  rw [joiningUnderExcludedName, calls_served]
  simp only [List.forall_mem_cons, List.not_mem_nil, false_implies, implies_true, and_true]
  exact ⟨trivial, ⟨.join (.voter "n4" "node4"), rfl⟩, trivial⟩

/-- A voter joins again under an excluded name. -/
def Event.rejoiningUnderExcludedName : List Event :=
  served 0 [.exclude (.ofNames ["node4"]), .update (.join (.voter "n3" "node4"))]

theorem Event.rejoiningUnderExcludedName_within :
    ∀ call ∈ calls rejoiningUnderExcludedName, call.WithinMembership := by
  rw [rejoiningUnderExcludedName, calls_served]
  simp only [List.forall_mem_cons, List.not_mem_nil, false_implies, implies_true, and_true]
  exact ⟨trivial, .join (.voter "n3" "node4"), rfl⟩

namespace System

variable {d : Directory} {settings : Settings} {reconcilers : List Reconciler} {events : List Event}

/-- Whoever an exclusion selects should be kept out; a node of an excluded name is not. -/
theorem excluded_name_votes :
    ¬ ∀ d settings reconcilers events, (∀ r ∈ reconcilers, r.KeepsMembership) →
      (∀ call ∈ Event.calls events, call.WithinMembership) →
      let s := ((bootstrap d settings reconcilers).run events).service.state
      ∀ node ∈ s.directory.toList, ∀ e ∈ s.coordination.exclusions, e.selects node = true →
        s.coordination.accepted.contains node.id = false := by
  intro h
  have hv := h .trio .initial _ _ trio_keepsMembership Event.joiningUnderExcludedName_within
    (.voter "n4" "node4") (by decide) ⟨none, "node4"⟩ (by decide) (by decide)
  revert hv
  decide

/-- An exclusion that selects a node by its id keeps it out always. One without an id keeps it out from when the node
joins to when the configuration is made anew, and not at all where the node joins under an id that votes. So a node
that a stored exclusion selects votes exactly if none carries its id and either the configuration was made anew since
it came, and it may vote, or it came with its vote after that. -/
theorem placeholder_acts_on_joining (hr : ∀ r ∈ reconcilers, r.KeepsMembership)
    (hc : ∀ call ∈ Event.calls events, call.WithinMembership) :
    let sys := bootstrap d settings reconcilers
    let s := (sys.run events).service.state
    (∀ node ∈ s.directory.toList, ∀ e ∈ s.coordination.exclusions, e.nodeId.isSome = true →
      e.selects node = true → s.coordination.accepted.contains node.id = false) ∧
    (∀ node ∈ d.toList, (∀ q ∈ sys.history events, ¬ q.Concerns node.id) →
      s.VotesUnless node (·.Identifies node)) ∧
    (∀ older p recent node, sys.history events = older ++ p :: recent → p.task = .join node →
      (∀ q ∈ recent, ¬ q.Concerns node.id) → s.VotesAfter node p recent) ∧
    (∀ node ∈ s.directory.toList, node ∈ d.toList ∧ (∀ q ∈ sys.history events, ¬ q.Concerns node.id) ∨
      ∃ older p recent, sys.history events = older ++ p :: recent ∧ p.task = .join node ∧
        ∀ q ∈ recent, ¬ q.Concerns node.id) ∧
    ∀ node ∈ s.directory.toList, ∀ e ∈ s.coordination.exclusions, e.selects node = true →
      (s.coordination.accepted.contains node.id = true ↔
        (∀ e ∈ s.coordination.exclusions, ¬ e.Identifies node) ∧
          (node.isMasterEligible = true ∧ RenewedSince (sys.history events) node.id ∨
            KeptVote (sys.history events) node)) := by
  intro sys s
  have hl : Linked (ClusterState.bootstrap d) (sys.history events) s := history_linked sys events
  have hn : ∀ p ∈ sys.history events, ∃ change next, p.Enacts change next := bootstrap_enacts hr hc
  have hb : s.ExcludesById := (bootstrap_excludesById hr hc).1
  have hv := ClusterState.votersPresent_bootstrap d
  refine ⟨?_, ?_, ?_, ?_, ?_⟩
  · intro node _ e he hid hsel
    obtain ⟨id, hid⟩ := Option.isSome_iff_exists.1 hid
    refine hb e he node.id ?_
    rw [← Exclusion.nodeId_of_selects hid hsel]
    exact hid
  · intro node hd hstay
    exact hl.votesUnless_id hn hstay (ClusterState.votesUnless_bootstrap hd)
  · intro older p recent node he ht hstay
    exact hl.votesAfter hn he hv ht hstay
  · intro node hp
    exact hl.arrival hn hp
  · intro node hp e he hsel
    exact hl.excluded_votes_iff hn rfl hv hb hp he hsel

/-- A node that a name without an id selects votes once another one was excluded, or where it keeps its vote. -/
theorem node_of_excluded_name_votes :
    (⟨none, "node4"⟩ ∈ (trio.run Event.joiningUnderExcludedName).service.state.coordination.exclusions ∧
      RenewedSince (trio.history Event.joiningUnderExcludedName) "n4" ∧
      (trio.run Event.joiningUnderExcludedName).service.state.coordination.accepted.contains "n4" = true) ∧
    (⟨none, "node4"⟩ ∈ (trio.run Event.rejoiningUnderExcludedName).service.state.coordination.exclusions ∧
      KeptVote (trio.history Event.rejoiningUnderExcludedName) (.voter "n3" "node4") ∧
      (trio.run Event.rejoiningUnderExcludedName).service.state.coordination.accepted.contains "n3" = true) := by
  refine ⟨?_, ?_⟩
  · obtain ⟨_, _, _, _, h⟩ := @placeholder_acts_on_joining .trio .initial _ _ trio_keepsMembership
      Event.joiningUnderExcludedName_within
    obtain ⟨p, q, r, hh, hr⟩ : ∃ p q r, trio.history Event.joiningUnderExcludedName = [p, q, r] ∧
        r.task = .exclude (.ofIds ["n2"]) := ⟨_, _, _, rfl, rfl⟩
    have hrenewed : RenewedSince (trio.history Event.joiningUnderExcludedName) "n4" :=
      ⟨[p, q], r, [], hh, .inl ⟨_, hr⟩, fun q hq => absurd hq List.not_mem_nil⟩
    refine ⟨by decide, hrenewed, ?_⟩
    refine (h (.voter "n4" "node4") (by decide) ⟨none, "node4"⟩ (by decide) (by decide)).2
      ⟨?_, .inl ⟨by decide, hrenewed⟩⟩
    show ∀ e ∈ (trio.run Event.joiningUnderExcludedName).service.state.coordination.exclusions.toList,
      ¬ e.nodeId = some "n4"
    decide
  · obtain ⟨_, _, _, _, h⟩ := @placeholder_acts_on_joining .trio .initial _ _ trio_keepsMembership
      Event.rejoiningUnderExcludedName_within
    obtain ⟨p, q, hh, hq, hv⟩ : ∃ p q, trio.history Event.rejoiningUnderExcludedName = [p, q] ∧
        q.task = .join (.voter "n3" "node4") ∧ q.before.coordination.accepted.contains "n3" = true :=
      ⟨_, _, rfl, rfl, rfl⟩
    have hkept : KeptVote (trio.history Event.rejoiningUnderExcludedName) (.voter "n3" "node4") :=
      ⟨[p], q, [], hh, hq, hv, fun q hq => absurd hq List.not_mem_nil⟩
    refine ⟨by decide, hkept, ?_⟩
    refine (h (.voter "n3" "node4") (by decide) ⟨none, "node4"⟩ (by decide) (by decide)).2 ⟨?_, .inr hkept⟩
    show ∀ e ∈ (trio.run Event.rejoiningUnderExcludedName).service.state.coordination.exclusions.toList,
      ¬ e.nodeId = some "n3"
    decide

end System

end ClusterControl
