import ClusterControl.Proofs.Cluster.Bootstrap

/-!
The stored exclusions as the history of a cluster makes them. An addition stores what its request asks
for in the state that it is applied to, beside what is stored there, if the maximum of that moment allows
as many. Nothing but clearing takes exclusions away.
-/

namespace ClusterControl

namespace ClusterService

/-- The service would apply the request now, and the request asks for these exclusions. -/
structure Admits (service : ClusterService) (request : ExclusionRequest) (added : ExclusionSet) : Prop where
  isOpen : service.isOpen = true
  resolves : request.resolve service.state = .ok added
  fits : (service.state.coordination.exclusions.union added).size ≤ service.settings.maxVotingExclusions

variable {service : ClusterService} {request : ExclusionRequest} {added : ExclusionSet}

theorem Admits.run (h : service.Admits request added) :
    (Task.exclude request).run service.settings service.state =
      .ok (service.state.withExclusions (service.state.coordination.exclusions.union added)) := by
  simp only [Task.exclude, h.resolves, ExclusionRequest.excess?, h.fits, if_true]

theorem admits_of_run {next : ClusterState} (ho : service.isOpen = true)
    (h : (Task.exclude request).run service.settings service.state = .ok next) :
    ∃ added, service.Admits request added := by
  have hm : (Change.exclude request).Makes service.settings service.state next := Change.makes_of_run h
  cases hm with
  | exclude _ added hr hs => exact ⟨added, ho, hr, hs⟩

theorem Admits.apply (h : service.Admits request added) :
    ∃ receipt, (service.apply (.exclude request)).2 = .ok receipt := by
  have ho : (!service.isOpen) = false := by simp [h.isOpen]
  simp only [ClusterService.apply, compute, conclude, ho, Bool.false_eq_true, if_false, h.run]
  exact ⟨_, rfl⟩

/-- A request is applied exactly if it is admitted; else nothing happens to the service. -/
theorem admitted_or_refused (service : ClusterService) (request : ExclusionRequest) :
    (∃ added receipt, service.Admits request added ∧ (service.apply (.exclude request)).2 = .ok receipt) ∨
      (∀ added, ¬ service.Admits request added) ∧
        ∃ error, service.apply (.exclude request) = (service, .error error) := by
  cases hr : (service.apply (.exclude request)).2 with
  | ok receipt =>
      obtain ⟨ho, _, _, next, hn, _⟩ := apply_ok hr
      obtain ⟨added, ha⟩ := admits_of_run ho hn
      exact .inl ⟨added, receipt, ha, rfl⟩
  | error error =>
      refine .inr ⟨?_, error, Prod.ext (apply_error hr) hr⟩
      intro added ha
      obtain ⟨receipt, h⟩ := ha.apply
      rw [hr] at h
      cases h

end ClusterService

namespace Publication

/-- The publication came of a request for these exclusions. -/
def Adds (p : Publication) (added : ExclusionSet) : Prop :=
  ∃ request, p.task = .exclude request ∧ request.resolve p.before = .ok added

/-- A change of membership whose outcome the reconcilers leave alone. -/
structure Regular (p : Publication) : Prop where
  sound : p.Sound
  reconcilers : ∀ r ∈ p.service.reconcilers, r.KeepsMembership
  change : ∃ change : Change, p.task = change.task

variable {p : Publication} {added : ExclusionSet}

theorem Regular.enacts (h : p.Regular) {change : Change} (ht : p.task = change.task) :
    ∃ next, p.Enacts change next :=
  h.sound.enacts h.reconcilers ht

theorem Regular.adds (h : p.Regular) (ha : p.Adds added) :
    p.state.coordination.exclusions = p.before.coordination.exclusions.union added ∧
      (p.before.coordination.exclusions.union added).size ≤ p.service.settings.maxVotingExclusions := by
  obtain ⟨request, ht, hr⟩ := ha
  have hc : p.task = (Change.exclude request).task := ht
  obtain ⟨next, he⟩ := h.enacts hc
  have hx := he.exclusions
  cases he.makes with
  | exclude _ found hf hs =>
      rw [hr] at hf
      cases hf
      exact ⟨hx, hs⟩

theorem Regular.clears (h : p.Regular) (ht : p.task = .clear) : p.state.coordination.exclusions = .empty := by
  have hc : p.task = Change.clear.task := ht
  obtain ⟨next, he⟩ := h.enacts hc
  have hx := he.exclusions
  cases he.makes
  exact hx

/-- Unless the publication clears, it stores what it adds beside what was stored. -/
theorem Regular.stored_iff (h : p.Regular) (hc : p.task ≠ .clear) (e : Exclusion) :
    e ∈ p.state.coordination.exclusions ↔
      e ∈ p.before.coordination.exclusions ∨ ∃ added, p.Adds added ∧ e ∈ added := by
  obtain ⟨change, ht⟩ := h.change
  obtain ⟨next, he⟩ := h.enacts ht
  constructor
  · rw [he.exclusions]
    intro hm
    cases he.makes with
    | join node =>
        rw [ClusterState.join_exclusions] at hm
        exact .inl hm
    | leave id => exact .inl hm
    | exclude request added hr _ =>
        exact (SortedSet.mem_union.1 hm).imp_right fun ha => ⟨added, ⟨request, ht, hr⟩, ha⟩
    | clear => exact absurd ht hc
  · rintro (hm | ⟨added, ha, hm⟩)
    · rw [he.exclusions]
      cases he.makes with
      | join node => rwa [ClusterState.join_exclusions]
      | leave id => exact hm
      | exclude => exact SortedSet.mem_union.2 (.inl hm)
      | clear => exact absurd ht hc
    · rw [(h.adds ha).1]
      exact SortedSet.mem_union.2 (.inr hm)

theorem Regular.size_le {max : Nat} (h : p.Regular) (hm : p.service.settings.maxVotingExclusions ≤ max)
    (hb : p.before.coordination.exclusions.size ≤ max) : p.state.coordination.exclusions.size ≤ max := by
  obtain ⟨change, ht⟩ := h.change
  obtain ⟨next, he⟩ := h.enacts ht
  rw [he.exclusions]
  cases he.makes with
  | join node => rwa [ClusterState.join_exclusions]
  | leave id => exact hb
  | exclude request added _ hs => exact Nat.le_trans hs hm
  | clear => exact Nat.zero_le max

end Publication

/-- What a history says of the exclusions at its end: `recent` was published since they were cleared last,
when there were none, or since the beginning, when they were `first`. -/
inductive SinceClear (first : ExclusionSet) : List Publication → ExclusionSet → List Publication → Prop
  | never {history : List Publication} (h : ∀ p ∈ history, p.task ≠ .clear) :
      SinceClear first history first history
  | cleared {older recent : List Publication} {p : Publication} (hp : p.task = .clear)
      (h : ∀ q ∈ recent, q.task ≠ .clear) : SinceClear first (older ++ p :: recent) .empty recent

theorem Linked.stored_iff {first last : ClusterState} {history : List Publication}
    (h : Linked first history last) (hr : ∀ p ∈ history, p.Regular) :
    ∃ base recent, SinceClear first.coordination.exclusions history base recent ∧
      ∀ e, e ∈ last.coordination.exclusions ↔
        e ∈ base ∨ ∃ p ∈ recent, ∃ added, p.Adds added ∧ e ∈ added := by
  induction h with
  | nil s => exact ⟨_, [], .never (by simp), by simp⟩
  | @cons p history last _ _ ih =>
      have hp := hr p List.mem_cons_self
      obtain ⟨base, recent, hs, he⟩ := ih fun q hq => hr q (List.mem_cons_of_mem p hq)
      cases hs with
      | @cleared older _ q hq hn => exact ⟨_, recent, @SinceClear.cleared _ (p :: older) recent q hq hn, he⟩
      | never hn =>
          by_cases ht : p.task = .clear
          · rw [hp.clears ht] at he
            exact ⟨_, history, @SinceClear.cleared _ [] history p ht hn, he⟩
          · refine ⟨_, p :: history, .never (List.forall_mem_cons.2 ⟨ht, hn⟩), ?_⟩
            intro e
            rw [he e, hp.stored_iff ht e, or_assoc]
            simp only [List.mem_cons, exists_eq_or_imp]

namespace System

variable {service : ClusterService} {events more : List Event}

theorem history_regular (hr : ∀ r ∈ service.reconcilers, r.KeepsMembership)
    (hc : ∀ call ∈ Event.calls events, call.WithinMembership) :
    ∀ p ∈ (start service).history events, p.Regular := by
  intro p hp
  refine ⟨(history_linked _ events).sound p hp, ?_, history_changes service events hc p hp⟩
  rw [history_reconcilers _ events p hp]
  exact hr

/-- What becomes of an addition at the head of the queue: all that it asks for is stored, or the client is
refused and the service stays as it is. -/
inductive Addition (sys : System) (client : Nat) (request : ExclusionRequest) : Prop
  | stored (added : ExclusionSet) (p : Publication) (ha : sys.service.Admits request added)
      (hp : sys.publication? .apply = some p) (hs : (sys.step .apply).service = sys.service.publish p.state)
      (he : p.state.coordination.exclusions = sys.service.state.coordination.exclusions.union added)
  | refused (purpose : Purpose) (error : UpdateError) (hn : ∀ added, ¬ sys.service.Admits request added)
      (hs : (sys.step .apply).service = sys.service)
      (hr : (sys.step .apply).clients[client]? = some (.replied purpose (.error error)))

theorem addition_of_queue {sys : System} {client : Nat} {request : ExclusionRequest} {rest : List (Nat × Task)}
    (hs : sys.Consistent) (hk : ∀ r ∈ sys.service.reconcilers, r.KeepsMembership)
    (hq : sys.queue = (client, .exclude request) :: rest) : sys.Addition client request := by
  obtain ⟨purpose, hc, _⟩ := hs.waiting client _ (hq ▸ List.mem_cons_self)
  rcases sys.service.admitted_or_refused request with ⟨added, receipt, ha, happ⟩ | ⟨hn, error, happ⟩
  · have hp : sys.publication? .apply = some ⟨client, .exclude request, sys.service, receipt.after⟩ := by
      simp only [publication?, hq, happ]
    obtain ⟨_, _, _, hsound, hstep⟩ := publication?_eq_some hp
    have hreg : Publication.Regular ⟨client, .exclude request, sys.service, receipt.after⟩ :=
      ⟨hsound, hk, .exclude request, rfl⟩
    exact .stored added _ ha hp hstep (hreg.adds ⟨request, rfl, ha.resolves⟩).1
  · refine .refused purpose error hn ?_ ?_
    · rw [step_apply hq, happ]
    · simp [step_apply hq, happ, hc, Phase.receive]

theorem run_reconcilers (sys : System) (events : List Event) :
    (sys.run events).service.reconcilers = sys.service.reconcilers := by
  induction events using List.reverseRecOn with
  | nil => rfl
  | append_singleton events e ih => rw [run_concat, step_reconcilers, ih]

/-- An addition is applied exactly if the maximum of the moment allows what it asks for then, and stores
that beside what is stored. So the exclusions are those asked for since they were cleared last, and they
stay within a maximum that is not raised. -/
theorem exclusions_accumulate (hr : ∀ r ∈ service.reconcilers, r.KeepsMembership)
    (hc : ∀ call ∈ Event.calls (events ++ more), call.WithinMembership) :
    let sys := (start service).run events
    (∀ client request rest, sys.queue = (client, .exclude request) :: rest → sys.Addition client request) ∧
    (∃ base recent,
      SinceClear service.state.coordination.exclusions ((start service).history events) base recent ∧
      ∀ e, e ∈ sys.service.state.coordination.exclusions ↔
        e ∈ base ∨ ∃ p ∈ recent, ∃ added, p.Adds added ∧ e ∈ added) ∧
    ∀ max, sys.service.state.coordination.exclusions.size ≤ max →
      (∀ p ∈ sys.history more, p.service.settings.maxVotingExclusions ≤ max) →
      (sys.run more).service.state.coordination.exclusions.size ≤ max := by
  intro sys
  have hreg : ∀ p ∈ (start service).history (events ++ more), p.Regular := history_regular hr hc
  refine ⟨?_, ?_, ?_⟩
  · intro client request rest hq
    refine addition_of_queue (consistent_run service events) ?_ hq
    rw [run_reconcilers]
    exact hr
  · refine (history_linked (start service) events).stored_iff ?_
    intro p hp
    exact hreg p (history_append _ events more ▸ List.mem_append_left _ hp)
  · intro max hb hm
    refine ((history_linked sys more).keeps (P := fun s => s.coordination.exclusions.size ≤ max) hb ?_).1
    intro p hp
    exact (hreg p (mem_history_append hp)).size_le (hm p hp)

end System

/-- Two clients look one after the other before either of their exclusions is stored. -/
def Event.excludingTogether : List Event :=
  [.call (.exclude (.ofIds ["n2"])), .call (.exclude (.ofIds ["n3"])), .poll 0, .poll 1, .apply]

/-- A new cluster of three voting nodes, where one exclusion is allowed. -/
def ClusterService.trioOfOne : ClusterService :=
  .start (.bootstrap .trio) { Settings.initial with maxVotingExclusions := 1 } [AllocationService.builtin.reconcile]

namespace System

/-- Both clients found room for their exclusions, but there is room for one. -/
theorem second_of_two_refused :
    let sys := (start .trioOfOne).run Event.excludingTogether
    sys.service.state.coordination.exclusions.toList = [⟨"n2", "node2"⟩] ∧
      sys.queue.map Prod.fst = [1] ∧ (sys.step .apply).service = sys.service ∧
      (sys.run [.apply]).service.state.coordination.exclusions.size ≤ 1 := by
  intro sys
  have hc : ∀ call ∈ Event.calls (Event.excludingTogether ++ [.apply]), call.WithinMembership := by
    simp [Event.excludingTogether, Event.calls, Event.call?, Call.WithinMembership]
  obtain ⟨hadd, _, hsize⟩ := @exclusions_accumulate .trioOfOne _ _ trio_keepsMembership hc
  have hnone : sys.history [.apply] = [] := rfl
  refine ⟨by decide, rfl, ?_, hsize 1 (by decide) ?_⟩
  · cases hadd 1 (.ofIds ["n3"]) [] rfl with
    | stored added p ha =>
        have hn : (ExclusionRequest.ofIds ["n3"]).resolve sys.service.state =
            .ok (.ofList [⟨"n3", "node3"⟩]) := rfl
        cases hn.symm.trans ha.resolves
        exact absurd ha.fits (by decide)
    | refused purpose error hn hs => exact hs
  · intro p hp
    rw [hnone] at hp
    cases hp

end System

end ClusterControl
