import ClusterControl.Proofs.Cluster.Watching
import ClusterControl.Proofs.Voting.LastingExclusion

/-!
What a client knows when its exclusions were added with success. If it waited for them to take effect
the excluded nodes are out of the committed configuration; if they were stored before it knows that of
the accepted one only.
-/

namespace ClusterControl

namespace Publication

variable {p : Publication} {change : Change} {next : ClusterState}

theorem Enacts.committed_eq (h : p.Enacts change next) : p.state.coordination.committed =
    if p.service.stalled then p.before.coordination.committed else p.state.coordination.accepted := by
  rw [h.committed, h.accepted]

end Publication

namespace Linked

variable {first last : ClusterState} {history : List Publication} {e : Exclusion} {id : NodeId}

/-- One commit is enough to bring an excluded node out of the committed configuration. -/
theorem committed_out (h : Linked first history last) (hn : ∀ p ∈ history, ∃ change next, p.Enacts change next)
    (hx : ∀ p ∈ history, p.state.ExcludesById ∧ e ∈ p.state.coordination.exclusions) (hid : e.nodeId = some id)
    (ho : first.coordination.committed.contains id = false ∨ ∃ p ∈ history, p.service.stalled = false) :
    last.coordination.committed.contains id = false := by
  induction h with
  | nil =>
      rcases ho with ho | ⟨p, hp, _⟩
      · exact ho
      · cases hp
  | @cons p history last _ _ ih =>
      obtain ⟨change, next, he⟩ := hn p List.mem_cons_self
      obtain ⟨hb, hs⟩ := hx p List.mem_cons_self
      refine ih (fun q hq => hn q (List.mem_cons_of_mem p hq)) (fun q hq => hx q (List.mem_cons_of_mem p hq)) ?_
      cases hstall : p.service.stalled with
      | false =>
          refine .inl ?_
          rw [he.committed_eq, hstall]
          exact hb e hs id hid
      | true =>
          rcases ho with ho | ⟨q, hq, hopen⟩
          · refine .inl ?_
            rw [he.committed_eq, hstall]
            exact ho
          · rcases List.mem_cons.1 hq with rfl | hq
            · rw [hstall] at hopen
              cases hopen
            · exact .inr ⟨q, hq, hopen⟩

end Linked

namespace System

/-- How far a client that adds exclusions has come, and what was applied for it. -/
inductive Excluding (request : ExclusionRequest) : List Publication → Phase → Prop
  | ready : Excluding request [] (.ready (.exclude request))
  | submitted (resolved : ExclusionSet) : Excluding request [] (.submitted (.exclusion request resolved))
  | refused (resolved : ExclusionSet) (error : UpdateError) :
      Excluding request [] (.replied (.exclusion request resolved) (.error error))
  | applied {p : Publication} (resolved : ExclusionSet) (ht : p.task = .exclude request) (hp : p.Sound) :
      Excluding request [p] (.replied (.exclusion request resolved) (.ok ⟨p.before, p.state⟩))
  | watching {p : Publication} {found : ExclusionSet} {observer : Observer} (ht : p.task = .exclude request)
      (hf : request.resolve p.before = .ok found) (ho : observer.holds = (Await.effect found).isOver) :
      Excluding request [p] (.watching (.coordination (.effect found)) observer)
  | finished (applied : List Publication) (answer : Answer) : Excluding request applied (.finished answer)

variable {sys : System} {client : Nat} {request : ExclusionRequest} {applied : List Publication} {phase : Phase}

theorem beginExclusion_phase (sys : System) (client : Nat) (request : ExclusionRequest) :
    (∃ resolved, (sys.beginExclusion client request).2 = .submitted (.exclusion request resolved)) ∨
      ∃ answer, (sys.beginExclusion client request).2 = .finished answer ∧
        (answer = .done → ∃ resolved, request.resolve sys.service.state = .ok resolved ∧
          ∀ e ∈ resolved, e ∈ sys.service.state.coordination.exclusions) := by
  unfold beginExclusion
  split
  case isTrue => exact .inr ⟨_, rfl, by simp⟩
  case isFalse =>
    dsimp only
    split
    case h_1 => exact .inr ⟨_, rfl, by simp⟩
    case h_2 resolved hr =>
      split
      case isTrue hs => exact .inr ⟨_, rfl, fun _ => ⟨resolved, hr, SortedSet.subset_iff.1 hs⟩⟩
      case isFalse =>
        split
        case h_1 => exact .inr ⟨_, rfl, by simp⟩
        case h_2 =>
          rcases submit_phase (.exclusion request resolved) (.exclude request) with ⟨h, _⟩ | ⟨answer, h, hd⟩
          · exact .inl ⟨resolved, h⟩
          · exact .inr ⟨answer, h, fun he => absurd he hd⟩

/-- The request resolves where its task was applied. -/
theorem resolve_of_sound {p : Publication} (ht : p.task = .exclude request) (hp : p.Sound) :
    ∃ found, request.resolve p.before = .ok found := by
  obtain ⟨_, _, _, next, hr, _⟩ := ClusterService.apply_ok hp
  rw [ht] at hr
  have hm : (Change.exclude request).Makes p.service.settings p.before next := Change.makes_of_run hr
  cases hm with
  | exclude _ found hf _ => exact ⟨found, hf⟩

/-- A client looks whether its exclusions took effect; it is done only if they have. -/
theorem excluding_look {p : Publication} {found : ExclusionSet} {observer : Observer}
    (ht : p.task = .exclude request) (hf : request.resolve p.before = .ok found)
    (ho : observer.holds = (Await.effect found).isOver) :
    Excluding request [p] (sys.look client (.coordination (.effect found)) observer).2 ∧
      ((sys.look client (.coordination (.effect found)) observer).2 = .finished .done →
        ∀ e ∈ found, ∀ id ∈ e.nodeId, sys.service.state.coordination.committed.contains id = false) := by
  rcases look_effect found observer with h | ⟨answer, h, hover⟩
  · rw [h]
    refine ⟨.watching ht hf ho, ?_⟩
    intro hd
    cases hd
  · rw [h]
    refine ⟨.finished _ answer, ?_⟩
    intro hd
    cases hd
    rw [ho] at hover
    exact Await.effect_isOver.1 (hover rfl)

theorem proceed_applied {p : Publication} {found : ExclusionSet} (resolved : ExclusionSet)
    (hf : request.resolve p.before = .ok found) :
    sys.proceed client (.replied (.exclusion request resolved) (.ok ⟨p.before, p.state⟩)) =
      sys.look client (.coordination (.effect found))
        (sys.observer (Await.effect found).isOver request.timeout) := by
  simp only [proceed, afterReply, hf, Except.toOption, Option.getD_some, wait]

theorem Excluding.turn (h : Excluding request applied phase) :
    Excluding request applied (sys.proceed client phase).2 := by
  cases h with
  | ready =>
      rcases beginExclusion_phase sys client request with ⟨resolved, h⟩ | ⟨answer, h, _⟩
      · rw [proceed, begin, h]
        exact .submitted resolved
      · rw [proceed, begin, h]
        exact .finished [] answer
  | submitted resolved => exact .submitted resolved
  | refused resolved error => exact .finished [] _
  | applied resolved ht hp =>
      obtain ⟨found, hf⟩ := resolve_of_sound ht hp
      rw [proceed_applied resolved hf]
      exact (excluding_look ht hf rfl).1
  | watching ht hf ho => exact (excluding_look ht hf ho).1
  | finished applied answer => exact .finished applied answer

/-- What a client has seen when it is done. -/
theorem Excluding.done (h : Excluding request applied phase) (ho : phase.answer? = none)
    (hd : (sys.proceed client phase).2 = .finished .done) :
    (∃ p found, applied = [p] ∧ p.task = .exclude request ∧ request.resolve p.before = .ok found ∧
        ∀ e ∈ found, ∀ id ∈ e.nodeId, sys.service.state.coordination.committed.contains id = false) ∨
      applied = [] ∧ ∃ found, request.resolve sys.service.state = .ok found ∧
        ∀ e ∈ found, e ∈ sys.service.state.coordination.exclusions := by
  cases h with
  | ready =>
      rw [proceed, begin] at hd
      rcases beginExclusion_phase sys client request with ⟨resolved, h⟩ | ⟨answer, h, hs⟩
      · rw [h] at hd
        cases hd
      · rw [h] at hd
        cases hd
        exact .inr ⟨rfl, hs rfl⟩
  | submitted | refused => cases hd
  | @applied p resolved ht hp =>
      obtain ⟨found, hf⟩ := resolve_of_sound ht hp
      rw [proceed_applied resolved hf] at hd
      exact .inl ⟨p, found, rfl, ht, hf, (excluding_look ht hf rfl).2 hd⟩
  | @watching p found observer ht hf hh =>
      exact .inl ⟨p, found, rfl, ht, hf, (excluding_look ht hf hh).2 hd⟩
  | finished => cases ho

theorem excluding_run (service : ClusterService) (events : List Event)
    (hc : (Event.calls events)[client]? = some (.exclude request)) :
    ∃ phase, ((start service).run events).clients[client]? = some phase ∧
      Excluding request ((start service).contribution client events) phase := by
  apply client_induction (motive := fun events phase =>
    Excluding request ((start service).contribution client events) phase) service client (.exclude request)
  · intro events hp
    rw [hp]
    exact .ready
  · intro events e phase next _ h hm
    cases hm with
    | waits hw =>
        rw [contribution_waits hw]
        exact h
    | turn =>
        rw [contribution_waits (by simp [publication?])]
        exact h.turn
    | @reply purpose task rest hq hp ha =>
        subst hp
        cases hr : (((start service).run events).service.apply task).2 with
        | error error =>
            rw [contribution_refused hq hr]
            generalize (start service).contribution client events = applied at h
            cases h with
            | submitted resolved => exact .refused resolved error
        | ok receipt =>
            rw [contribution_applied hq hr]
            generalize (start service).contribution client events = applied at h
            cases h with
            | submitted resolved =>
                cases ha
                have hs := Publication.sound_of_apply client hr
                obtain ⟨_, _, hb, _⟩ := ClusterService.apply_ok hr
                obtain ⟨before, after⟩ := receipt
                subst hb
                exact .applied resolved rfl hs
  · exact hc

/-- The exclusion was stored by a publication and has stayed since then; its node may still be
committed, if every commit since then was stalled. -/
def StoredSince (history : List Publication) (s : ClusterState) (e : Exclusion) : Prop :=
  ∃ older p recent, history = older ++ p :: recent ∧ e ∉ p.before.coordination.exclusions ∧
    (∀ q ∈ p :: recent, e ∈ q.state.coordination.exclusions) ∧
    ∀ id ∈ e.nodeId, s.coordination.accepted.contains id = false ∧
      (s.coordination.committed.contains id = true → ∀ q ∈ p :: recent, q.service.stalled = true)

section Bootstrap

variable {d : Directory} {settings : Settings} {reconcilers : List Reconciler} {events : List Event}

theorem storedSince_run (hr : ∀ r ∈ reconcilers, r.KeepsMembership)
    (hc : ∀ call ∈ Event.calls events, call.WithinMembership) {e : Exclusion}
    (he : e ∈ ((bootstrap d settings reconcilers).run events).service.state.coordination.exclusions) :
    StoredSince ((bootstrap d settings reconcilers).history events)
      ((bootstrap d settings reconcilers).run events).service.state e := by
  have hl := history_linked (bootstrap d settings reconcilers) events
  have hn : ∀ p ∈ (bootstrap d settings reconcilers).history events, ∃ change next, p.Enacts change next :=
    bootstrap_enacts hr hc
  obtain ⟨hb, hall⟩ : ((bootstrap d settings reconcilers).run events).service.state.ExcludesById ∧
      ∀ p ∈ (bootstrap d settings reconcilers).history events, p.state.ExcludesById :=
    bootstrap_excludesById hr hc
  rcases hl.since (P := fun s => e ∈ s.coordination.exclusions) he with ⟨hf, _⟩ | ⟨older, p, recent, hh, hp, ha⟩
  · exact absurd hf (SortedBy.not_mem_empty e)
  · refine ⟨older, p, recent, hh, hp, ha, ?_⟩
    intro id hid
    refine ⟨hb e he id hid, ?_⟩
    intro hv q hq
    by_contra hs
    rw [Bool.not_eq_true] at hs
    rw [hh] at hl hn hall
    obtain ⟨middle, _, hl⟩ := hl.split
    have hout := hl.committed_out (fun q hq => hn q (List.mem_append_right older hq))
      (fun q hq => ⟨hall q (List.mem_append_right older hq), ha q hq⟩) hid (.inr ⟨q, hq, hs⟩)
    rw [hv] at hout
    cases hout

/-- A client whose exclusions are done with success waited until they took effect, or found them stored;
then no node is accepted that they name, and one is committed only while commits are stalled. -/
theorem exclusion_done (hr : ∀ r ∈ reconcilers, r.KeepsMembership)
    (hc : ∀ call ∈ Event.calls events, call.WithinMembership) {e : Event}
    (hcall : (Event.calls events)[client]? = some (.exclude request))
    (hb : ((bootstrap d settings reconcilers).run events).answer? client = none)
    (ha : (((bootstrap d settings reconcilers).run events).step e).answer? client = some .done) :
    let sys := bootstrap d settings reconcilers
    let s := ((sys.run events).step e).service.state
    (∃ p found, sys.contribution client events = [p] ∧ p.task = .exclude request ∧
        request.resolve p.before = .ok found ∧
        ∀ x ∈ found, ∀ id ∈ x.nodeId, s.coordination.committed.contains id = false) ∨
      sys.contribution client events = [] ∧ ∃ found, request.resolve s = .ok found ∧
        ∀ x ∈ found, StoredSince (sys.history events) s x := by
  intro sys s
  obtain ⟨phase, hp, hx⟩ : ∃ phase, (sys.run events).clients[client]? = some phase ∧
      Excluding request (sys.contribution client events) phase := excluding_run _ events hcall
  have hcons : (sys.run events).Consistent := consistent_run _ events
  obtain ⟨next, hn, hm⟩ := step_moves hcons hp e
  have ho : phase.answer? = none := by
    rw [answer?, hp] at hb
    exact hb
  have hd : next.answer? = some .done := by
    rw [answer?, hn] at ha
    exact ha
  cases hm with
  | waits =>
      rw [ho] at hd
      cases hd
  | reply => cases hd
  | turn =>
      have hs : s = (sys.run events).service.state := step_poll_state hp
      rw [hs]
      rcases hx.done ho (Phase.finished_of_answer hd) with h | ⟨happ, found, hf, hstored⟩
      · exact .inl h
      · exact .inr ⟨happ, found, hf, fun x hx => storedSince_run hr hc (hstored x hx)⟩

end Bootstrap

end System

/-- A client excludes a node and its task is applied. -/
def Event.excluding : List Event :=
  [.call (.exclude (.ofIds ["n3"])), .poll 0, .apply]

/-- Commits stall; a node is excluded, and is to be excluded again before that is committed. -/
def Event.excludingTwice : List Event :=
  served 0 [.stall true, .exclude (.ofIds ["n3"])] ++ [.call (.exclude (.ofIds ["n3"]))]

theorem Event.excluding_within : ∀ call ∈ calls excluding, call.WithinMembership := by
  simp [excluding, calls, call?, Call.WithinMembership]

theorem Event.excludingTwice_within : ∀ call ∈ calls excludingTwice, call.WithinMembership := by
  rw [excludingTwice, calls_concat, calls_served]
  simp [call?, Call.WithinMembership]

namespace System

/-- The nodes of an exclusion that is done should not be committed; those of one that was stored before
can be. -/
theorem done_exclusion_committed :
    ¬ ∀ d settings reconcilers events e client request, (∀ r ∈ reconcilers, r.KeepsMembership) →
      (∀ call ∈ Event.calls events, call.WithinMembership) →
      (Event.calls events)[client]? = some (.exclude request) →
      ((bootstrap d settings reconcilers).run events).answer? client = none →
      (((bootstrap d settings reconcilers).run events).step e).answer? client = some .done →
      let sys := bootstrap d settings reconcilers
      ∀ found, ((∃ p, sys.contribution client events = [p] ∧ request.resolve p.before = .ok found) ∨
          sys.contribution client events = [] ∧ request.resolve (sys.run events).service.state = .ok found) →
        ∀ x ∈ found, ∀ id ∈ x.nodeId,
          ((sys.run events).step e).service.state.coordination.committed.contains id = false := by
  intro h
  have hv := h .trio .initial _ Event.excludingTwice (.poll 2) 2 (.ofIds ["n3"]) trio_keepsMembership
    Event.excludingTwice_within rfl rfl rfl _ (.inr ⟨rfl, rfl⟩) ⟨"n3", "node3"⟩ (by decide) "n3" rfl
  revert hv
  decide

theorem exclusion_done_once_and_twice :
    (∃ p found, trio.contribution 0 Event.excluding = [p] ∧
      (ExclusionRequest.ofIds ["n3"]).resolve p.before = .ok found ∧ ∀ x ∈ found, ∀ id ∈ x.nodeId,
        ((trio.run Event.excluding).step (.poll 0)).service.state.coordination.committed.contains id = false) ∧
    ∃ found, (ExclusionRequest.ofIds ["n3"]).resolve
        ((trio.run Event.excludingTwice).step (.poll 2)).service.state = .ok found ∧
      ∀ x ∈ found, StoredSince (trio.history Event.excludingTwice)
        ((trio.run Event.excludingTwice).step (.poll 2)).service.state x := by
  constructor
  · rcases @exclusion_done 0 (.ofIds ["n3"]) .trio .initial _ _ trio_keepsMembership Event.excluding_within
      (.poll 0) rfl rfl rfl with ⟨p, found, hp, _, hf, hv⟩ | ⟨hp, _⟩
    · exact ⟨p, found, hp, hf, hv⟩
    · cases hp
  · rcases @exclusion_done 2 (.ofIds ["n3"]) .trio .initial _ _ trio_keepsMembership Event.excludingTwice_within
      (.poll 2) rfl rfl rfl with ⟨p, _, hp, _⟩ | ⟨_, h⟩
    · cases hp
    · exact h

end System

end ClusterControl
