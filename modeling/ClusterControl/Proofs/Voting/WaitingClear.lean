import ClusterControl.Proofs.Cluster.Bootstrap
import ClusterControl.Proofs.Cluster.Watching

/-!
Clearing the exclusions once their nodes have left. The client waits for the nodes of those exclusions
that it read when it began; the task that it submits then clears whatever is excluded when it is
applied. A node that is still excluded and there at that time is one that was excluded or that joined
in between.
-/

namespace ClusterControl

namespace Exclusion

variable {e : Exclusion} {d : Directory} {node : Node} {id : NodeId}

theorem isPresentIn_iff : e.isPresentIn d = true ↔ ∃ node ∈ d.toList, e.selects node = true := by
  rw [isPresentIn, List.any_eq_true]

theorem isPresentIn_of_insert (h : e.isPresentIn (d.insert node) = true) (hn : e.isPresentIn d = false) :
    e.selects node = true := by
  obtain ⟨other, hm, hs⟩ := isPresentIn_iff.1 h
  rcases Directory.mem_insert.1 hm with rfl | ⟨hm, _⟩
  · exact hs
  · rw [isPresentIn_iff.2 ⟨other, hm, hs⟩] at hn
    cases hn

theorem isPresentIn_of_erase (h : e.isPresentIn (d.erase id) = true) : e.isPresentIn d = true := by
  obtain ⟨node, hm, hs⟩ := isPresentIn_iff.1 h
  exact isPresentIn_iff.2 ⟨node, (Directory.mem_erase.1 hm).1, hs⟩

end Exclusion

namespace Publication

variable {p : Publication} {change : Change} {next : ClusterState} {e : Exclusion}

/-- Exclusions come to be stored by being added only. -/
theorem Enacts.excludes_of_stored (h : p.Enacts change next) (hb : e ∉ p.before.coordination.exclusions)
    (ha : e ∈ p.state.coordination.exclusions) : p.Excludes := by
  rw [h.exclusions] at ha
  have ht := h.task
  cases h.makes with
  | exclude request => exact ⟨request, ht⟩
  | join node =>
      rw [ClusterState.join_exclusions] at ha
      exact absurd ha hb
  | leave id => exact absurd ha hb
  | clear => exact absurd ha (SortedBy.not_mem_empty e)

/-- Nodes come to be there by joining only. -/
theorem Enacts.join_of_present (h : p.Enacts change next) (hb : e.isPresentIn p.before.directory = false)
    (ha : e.isPresentIn p.state.directory = true) : ∃ node, p.task = .join node ∧ e.selects node = true := by
  rw [h.directory] at ha
  have ht := h.task
  cases h.makes with
  | join node => exact ⟨node, ht, Exclusion.isPresentIn_of_insert ha hb⟩
  | leave id =>
      rw [Exclusion.isPresentIn_of_erase ha] at hb
      cases hb
  | exclude | clear =>
      rw [ClusterState.withExclusions_directory, hb] at ha
      cases ha

end Publication

namespace System

/-- The last of the events is the client's turn, in which it submits this task. -/
def SubmitsLast (sys : System) (events : List Event) (client : Nat) (task : Task) : Prop :=
  ∃ before, events = before ++ [.poll client] ∧
    (sys.run events).queue = (sys.run before).queue ++ [(client, task)]

/-- The client begins after the events `reading`: it is ready, and its turn comes. -/
structure Reads (sys : System) (client : Nat) (request : ClearRequest) (reading waiting events : List Event) :
    Prop where
  events : events = reading ++ .poll client :: waiting
  ready : (sys.run reading).clients[client]? = some (.ready (.clear request))

/-- How far a client has come that clears the exclusions once their nodes have left. -/
inductive Clearing (sys : System) (client : Nat) (request : ClearRequest) : List Event → Phase → Prop
  | ready {events : List Event} : Clearing sys client request events (.ready (.clear request))
  | watching {events reading waiting : List Event} {observer : Observer}
      (hr : sys.Reads client request reading waiting events)
      (ho : observer.holds = (Await.removal (sys.run reading).service.state.coordination.exclusions).isOver) :
      Clearing sys client request events
        (.watching (.coordination (.removal (sys.run reading).service.state.coordination.exclusions)) observer)
  | submitted {events reading waiting submitting queued : List Event}
      (hr : sys.Reads client request reading waiting submitting) (he : events = submitting ++ queued)
      (hs : sys.SubmitsLast submitting client .clear)
      (ho : (Await.removal (sys.run reading).service.state.coordination.exclusions).isOver
        (sys.run submitting).service.state = true) :
      Clearing sys client request events (.submitted .clearing)
  | replied {events : List Event} (reply : Except UpdateError Receipt) :
      Clearing sys client request events (.replied .clearing reply)
  | finished {events : List Event} (answer : Answer) : Clearing sys client request events (.finished answer)

variable {sys : System} {client : Nat} {request : ClearRequest} {reading waiting events : List Event}
  {phase : Phase}

theorem Reads.concat (h : sys.Reads client request reading waiting events) (e : Event) :
    sys.Reads client request reading (waiting ++ [e]) (events ++ [e]) :=
  ⟨by rw [h.events, List.append_assoc, List.cons_append], h.ready⟩

theorem Clearing.concat (h : sys.Clearing client request events phase) (e : Event) :
    sys.Clearing client request (events ++ [e]) phase := by
  cases h with
  | ready => exact .ready
  | watching hr ho => exact .watching (hr.concat e) ho
  | submitted hr he hs ho => exact .submitted hr (by rw [he, List.append_assoc]) hs ho
  | replied reply => exact .replied reply
  | finished answer => exact .finished answer

theorem beginClearing_phase (sys : System) (client : Nat) (hw : request.waitForRemoval = true) :
    (∃ answer, (sys.beginClearing client request).2 = .finished answer) ∨
      sys.beginClearing client request =
        sys.wait client (.removal sys.service.state.coordination.exclusions) request.timeout := by
  unfold beginClearing
  dsimp only
  split
  case isTrue => exact .inl ⟨_, rfl⟩
  case isFalse => exact .inr rfl

/-- The client looks whether the nodes have left of the exclusions that it read. -/
theorem Clearing.look {observer : Observer} (hr : sys.Reads client request reading waiting (events ++ [.poll client]))
    (hc : (sys.run events).clients[client]? = some phase)
    (hp : (sys.run events).proceed client phase = (sys.run events).look client
      (.coordination (.removal (sys.run reading).service.state.coordination.exclusions)) observer)
    (ho : observer.holds = (Await.removal (sys.run reading).service.state.coordination.exclusions).isOver) :
    sys.Clearing client request (events ++ [.poll client]) ((sys.run events).proceed client phase).2 := by
  have hq : (sys.run (events ++ [.poll client])).queue = ((sys.run events).proceed client phase).1.queue := by
    rw [run_concat, step_poll hc]
  have hs : (sys.run (events ++ [.poll client])).service.state = (sys.run events).service.state := by
    rw [run_concat, step_poll_state hc]
  rw [hp] at hq ⊢
  rcases look_removal _ observer with h | ⟨answer, h⟩ | ⟨h, hlast, hover⟩
  · rw [h]
    exact .watching hr ho
  · rw [h]
    exact .finished answer
  · rw [h]
    rw [hlast] at hq
    rw [ho, ← hs] at hover
    exact .submitted hr (List.append_nil _).symm ⟨events, rfl, hq⟩ hover

theorem Clearing.turn (hw : request.waitForRemoval = true) (h : sys.Clearing client request events phase)
    (hc : (sys.run events).clients[client]? = some phase) :
    sys.Clearing client request (events ++ [.poll client]) ((sys.run events).proceed client phase).2 := by
  cases h with
  | ready =>
      rcases beginClearing_phase (sys.run events) client hw with ⟨answer, h⟩ | h
      · rw [proceed, begin, h]
        exact .finished answer
      · exact .look ⟨rfl, hc⟩ hc h rfl
  | watching hr ho => exact .look (hr.concat _) hc rfl ho
  | submitted hr he hs ho => exact (Clearing.submitted hr he hs ho).concat _
  | replied reply =>
      cases reply with
      | ok | error => exact .finished _
  | finished answer => exact .finished answer

theorem clearing_run (service : ClusterService) (events : List Event) (hw : request.waitForRemoval = true)
    (hc : (Event.calls events)[client]? = some (.clear request)) :
    ∃ phase, ((start service).run events).clients[client]? = some phase ∧
      (start service).Clearing client request events phase := by
  refine client_induction service client (.clear request) ?_ ?_ events hc
  · intro events _
    exact .ready
  · intro events e phase next hp h hm
    cases hm with
    | waits => exact h.concat e
    | turn => exact h.turn hw hp
    | reply hq hp ha =>
        subst hp
        cases h with
        | submitted => exact .replied _

section Bootstrap

variable {d : Directory} {settings : Settings} {reconcilers : List Reconciler} {p : Publication}

/-- What a waiting client clears: of the exclusions that it read none had a node there when it submitted
its task; one that still has, or has again, was added since then, or its node joined. -/
theorem waiting_clear (hr : ∀ r ∈ reconcilers, r.KeepsMembership)
    (hc : ∀ call ∈ Event.calls events, call.WithinMembership) (hw : request.waitForRemoval = true)
    (hcall : (Event.calls events)[client]? = some (.clear request))
    (hp : ((bootstrap d settings reconcilers).run events).publication? .apply = some p)
    (hclient : p.client = client) :
    let sys := bootstrap d settings reconcilers
    p.task = .clear ∧ ∃ reading waiting submitting queued, events = submitting ++ queued ∧
      sys.Reads client request reading waiting submitting ∧ sys.SubmitsLast submitting client .clear ∧
      (∀ x ∈ (sys.run reading).service.state.coordination.exclusions,
        x.isPresentIn (sys.run submitting).service.state.directory = false) ∧
      ∀ x ∈ p.before.coordination.exclusions, x.isPresentIn p.before.directory = true →
        (x ∉ (sys.run reading).service.state.coordination.exclusions ∧
          ∃ q ∈ (sys.run reading).history (.poll client :: waiting ++ queued),
            q.Excludes ∧ x ∈ q.state.coordination.exclusions) ∨
        ∃ q ∈ (sys.run submitting).history queued, ∃ node, q.task = .join node ∧ x.selects node = true := by
  intro sys
  obtain ⟨_, ⟨rest, hq⟩, hservice, _⟩ := publication?_eq_some hp
  rw [hclient] at hq
  obtain ⟨phase, hphase, hx⟩ : ∃ phase, (sys.run events).clients[client]? = some phase ∧
      sys.Clearing client request events phase := clearing_run _ events hw hcall
  have hcons : (sys.run events).Consistent := consistent_run _ events
  obtain ⟨purpose, ho, hasks⟩ := hcons.waiting client p.task (hq ▸ List.mem_cons_self)
  obtain rfl : phase = .submitted purpose := Option.some.inj (hphase.symm.trans ho)
  have hn : ∀ q ∈ sys.history events, ∃ change next, q.Enacts change next := bootstrap_enacts hr hc
  have hbefore : p.before = (sys.run events).service.state := congrArg ClusterService.state hservice
  cases hx with
  | @submitted reading waiting submitting queued hread he hsub hover =>
      rw [Await.removal_isOver] at hover
      refine ⟨hasks.eq_clear, reading, waiting, submitting, queued, he, hread, hsub, hover, ?_⟩
      intro x hx hpresent
      rw [hbefore] at hx hpresent
      have hsince : events = reading ++ (.poll client :: waiting ++ queued) := by
        rw [he, hread.events, List.append_assoc]
      by_cases hold : x ∈ (sys.run reading).service.state.coordination.exclusions
      · refine .inr ?_
        have hl := history_linked (sys.run submitting) queued
        rw [← run_append, ← he] at hl
        have hgone : ¬ x.isPresentIn (sys.run submitting).service.state.directory = true := by
          simp [hover x hold]
        obtain ⟨q, hq, hb, ha⟩ := hl.exists_turn (P := fun s => x.isPresentIn s.directory = true) hgone hpresent
        obtain ⟨change, next, hen⟩ := hn q (he ▸ mem_history_append hq)
        exact ⟨q, hq, hen.join_of_present (Bool.eq_false_iff.2 hb) ha⟩
      · refine .inl ⟨hold, ?_⟩
        have hl := history_linked (sys.run reading) (.poll client :: waiting ++ queued)
        rw [← run_append, ← hsince] at hl
        obtain ⟨q, hq, hb, ha⟩ := hl.exists_turn (P := fun s => x ∈ s.coordination.exclusions) hold hx
        obtain ⟨change, next, hen⟩ := hn q (hsince ▸ mem_history_append hq)
        exact ⟨q, hq, hen.excludes_of_stored hb ha, ha⟩

end Bootstrap

end System

/-- A client waits for a node that is not there and clears, just after another one excludes a node. -/
def Event.clearingBesideExclusion : List Event :=
  served 0 [.exclude (.ofIds ["ghost"])] ++ [.call (.exclude (.ofIds ["n3"])),
    .call (.clear ⟨true, defaultTimeout⟩), .poll 1, .poll 2, .apply]

theorem Event.clearingBesideExclusion_within : ∀ call ∈ calls clearingBesideExclusion, call.WithinMembership := by
  rw [clearingBesideExclusion, calls_append, calls_served]
  simp [calls, call?, Call.WithinMembership]

namespace System

/-- A client that waits should clear no exclusion of a node that is there; but it looks only for the nodes
of those that it read. -/
theorem waiting_clear_of_present_node :
    ¬ ∀ d settings reconcilers events client request p, (∀ r ∈ reconcilers, r.KeepsMembership) →
      (∀ call ∈ Event.calls events, call.WithinMembership) → request.waitForRemoval = true →
      (Event.calls events)[client]? = some (.clear request) →
      ((bootstrap d settings reconcilers).run events).publication? .apply = some p → p.client = client →
      ∀ x ∈ p.before.coordination.exclusions, x ∉ p.state.coordination.exclusions →
        x.isPresentIn p.before.directory = false := by
  intro h
  have hv := h .trio .initial _ Event.clearingBesideExclusion 2 ⟨true, defaultTimeout⟩ _ trio_keepsMembership
    Event.clearingBesideExclusion_within rfl rfl rfl rfl ⟨"n3", "node3"⟩ (by decide) (by decide)
  revert hv
  decide

theorem waiting_clear_beside_exclusion :
    ∃ reading waiting submitting queued, Event.clearingBesideExclusion = submitting ++ queued ∧
      trio.Reads 2 ⟨true, defaultTimeout⟩ reading waiting submitting ∧ trio.SubmitsLast submitting 2 .clear ∧
      ∀ x ∈ (trio.run reading).service.state.coordination.exclusions,
        x.isPresentIn (trio.run submitting).service.state.directory = false := by
  obtain ⟨_, reading, waiting, submitting, queued, he, hr, hs, hx, _⟩ := @waiting_clear 2
    ⟨true, defaultTimeout⟩ Event.clearingBesideExclusion .trio .initial _ _ trio_keepsMembership
    Event.clearingBesideExclusion_within rfl rfl rfl rfl
  exact ⟨reading, waiting, submitting, queued, he, hr, hs, hx⟩

end System

end ClusterControl
