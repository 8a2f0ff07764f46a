import ClusterControl.Proofs.Cluster.Attention
import ClusterControl.Proofs.Voting.QuorumSafety
import ClusterControl.Proofs.Voting.WaitingClear

/-!
What came of a call to change the exclusions that failed. An addition that was refused stored nothing;
one that waited in vain stored all that it resolved to, in one publication. A call to clear that failed
cleared nothing. An error of a wait that took too long names what was missing in the state that the
client looked at last.
-/

namespace ClusterControl

namespace ClusterState

variable {s : ClusterState} {exclusions : ExclusionSet} {e : Exclusion}

theorem mem_stillVoting : e ∈ s.stillVoting exclusions ↔
    e ∈ exclusions ∧ ∃ id, e.nodeId = some id ∧ s.coordination.committed.contains id = true := by
  rw [stillVoting, SortedBy.mem_filter]
  cases h : e.nodeId <;> simp

theorem mem_stillPresent : e ∈ s.stillPresent exclusions ↔
    e ∈ exclusions ∧ e.isPresentIn s.directory = true := by
  rw [stillPresent, SortedBy.mem_filter]

end ClusterState

theorem Await.exists_pending {wait : Await} {s : ClusterState} (h : wait.isOver s = false) :
    ∃ e, e ∈ (wait.pending s).exclusions := by
  by_contra hn
  push Not at hn
  have hempty : (wait.pending s).exclusions = .empty := SortedBy.ext (by simpa using hn)
  rw [isOver, hempty] at h
  cases h

/-- The exclusions `found` are stored beside those of before, and accepted are the nodes that are there and may vote,
except where a stored exclusion carries the id. -/
structure ClusterState.TakesIn (before : ClusterState) (found : ExclusionSet) (after : ClusterState) : Prop where
  exclusions : ∀ e, e ∈ after.coordination.exclusions ↔ e ∈ before.coordination.exclusions ∨ e ∈ found
  accepted : ∀ id, after.coordination.accepted.contains id = true ↔
    ∃ node ∈ before.directory.toList, node.id = id ∧ node.isMasterEligible = true ∧
      ∀ e ∈ after.coordination.exclusions, e.nodeId ≠ some id
  directory : after.directory = before.directory

theorem ClusterState.takesIn_withExclusions (before : ClusterState) (found : ExclusionSet) :
    before.TakesIn found (before.withExclusions (before.coordination.exclusions.union found)) :=
  ⟨fun _ => SortedSet.mem_union, fun _ => withExclusions_accepted, rfl⟩

namespace Publication

/-- The publication is all that the request asked for when its task was applied: the task computed `next`, which took
in what was found and is as before else, and the state was published from it. Where no reconciler meddles with the
membership, the published state took it in as well. -/
structure Stores (p : Publication) (request : ExclusionRequest) (found : ExclusionSet) : Prop where
  task : p.task = .exclude request
  resolves : request.resolve p.before = .ok found
  computed : ∃ next, p.before.TakesIn found next ∧
    next = { p.before with
      coordination.exclusions := next.coordination.exclusions
      coordination.accepted := next.coordination.accepted } ∧
    p.service.Releases next p.state
  published : (∀ r ∈ p.service.reconcilers, r.KeepsMembership) → p.before.TakesIn found p.state

theorem Sound.stores {p : Publication} {request : ExclusionRequest} {found : ExclusionSet} (hp : p.Sound)
    (ht : p.task = .exclude request) (hf : request.resolve p.before = .ok found) : p.Stores request found := by
  have hmade : ∀ next, (Change.exclude request).Makes p.service.settings p.before next →
      next = p.before.withExclusions (p.before.coordination.exclusions.union found) := by
    intro next hm
    cases hm with
    | exclude _ added ha _ =>
        cases hf.symm.trans ha
        rfl
  have htakes := p.before.takesIn_withExclusions found
  refine ⟨ht, hf, ?_, fun hk => ?_⟩
  · obtain ⟨_, _, _, next, hr, hs⟩ := ClusterService.apply_ok hp
    rw [ht] at hr
    have hstate : p.state = p.service.succeed p.before next := hs
    obtain rfl := hmade next (Change.makes_of_run hr)
    exact ⟨_, htakes, rfl, hstate ▸ p.service.releases_succeed _⟩
  · have hchange : p.task = (Change.exclude request).task := ht
    obtain ⟨next, he⟩ := hp.enacts hk hchange
    obtain rfl := hmade next he.makes
    refine ⟨?_, ?_, he.directory⟩
    · rw [he.exclusions]
      exact htakes.exclusions
    · rw [he.accepted, he.exclusions]
      exact htakes.accepted

end Publication

/-- How adding exclusions fails, and what was published for it, where the client looked at `s` last. -/
inductive ExclusionFailure (request : ExclusionRequest) (s : ClusterState) :
    CoordinationError → List Publication → Prop
  | invalid (fault : RequestFault) : ExclusionFailure request s (.invalid fault) []
  | excess (excess : Excess) : ExclusionFailure request s (.excess excess) []
  | update (error : UpdateError) : ExclusionFailure request s (.update error) []
  | timedOut {p : Publication} {found pending : ExclusionSet} (hp : p.Stores request found)
      (hm : ∀ e, e ∈ pending ↔
        e ∈ found ∧ ∃ id, e.nodeId = some id ∧ s.coordination.committed.contains id = true)
      (hn : ∃ e, e ∈ pending) : ExclusionFailure request s (.timedOut (.effect pending)) [p]
  | unavailable {p : Publication} {found : ExclusionSet} (hp : p.Stores request found) :
      ExclusionFailure request s (.unavailable (.effect found)) [p]

/-- How clearing fails for a client that read these exclusions at first and looked at `s` last. -/
inductive ClearingFailure (read : ExclusionSet) (s : ClusterState) : CoordinationError → Prop
  | update (error : UpdateError) : ClearingFailure read s (.update error)
  | timedOut {pending : ExclusionSet} (hm : ∀ e, e ∈ pending ↔ e ∈ read ∧ e.isPresentIn s.directory = true)
      (hn : ∃ e, e ∈ pending) : ClearingFailure read s (.timedOut (.removal pending))
  | unavailable : ClearingFailure read s (.unavailable (.removal read))

namespace System

/-- The client gets its answer in the turn that comes after the events `last`. -/
structure Answers (sys : System) (client : Nat) (answer : Answer) (last events : List Event) : Prop where
  events : ∃ later, events = last ++ .poll client :: later
  waiting : (sys.run last).answer? client = none
  answered : (sys.run (last ++ [.poll client])).answer? client = some answer

variable {sys : System} {service : ClusterService} {client : Nat} {answer : Answer} {call : Call}
  {last events : List Event} {phase : Phase} {error : CoordinationError}

theorem Answers.concat (h : sys.Answers client answer last events) (e : Event) :
    sys.Answers client answer last (events ++ [e]) := by
  obtain ⟨later, he⟩ := h.events
  exact ⟨⟨later ++ [e], by rw [he, List.append_assoc, List.cons_append]⟩, h.waiting, h.answered⟩

theorem answers_turn (hc : (sys.run events).clients[client]? = some phase) (ho : phase.answer? = none)
    (hd : ((sys.run events).proceed client phase).2 = .finished answer) :
    sys.Answers client answer events (events ++ [.poll client]) := by
  have hl : client < (sys.run events).clients.length := (List.getElem?_eq_some_iff.1 hc).1
  refine ⟨⟨[], rfl⟩, ?_, ?_⟩
  · rw [answer?, hc]
    exact ho
  · rw [run_concat, step_poll hc, answer?, List.getElem?_set_self hl, hd]
    rfl

theorem Answers.turn (h : sys.Answers client answer last events) :
    ∃ phase, (sys.run last).clients[client]? = some phase ∧ phase.answer? = none ∧
      ((sys.run last).proceed client phase).2 = .finished answer := by
  have ha := h.answered
  have hw := h.waiting
  rw [run_concat] at ha
  cases hc : (sys.run last).clients[client]? with
  | none =>
      rw [step_poll_none hc, hw] at ha
      cases ha
  | some phase =>
      have hl : client < (sys.run last).clients.length := (List.getElem?_eq_some_iff.1 hc).1
      rw [step_poll hc, answer?, List.getElem?_set_self hl] at ha
      rw [answer?, hc] at hw
      exact ⟨phase, rfl, hw, Phase.finished_of_answer ha⟩

theorem Answers.calls_last (h : (start service).Answers client answer last events)
    (hc : (Event.calls events)[client]? = some call) : (Event.calls last)[client]? = some call := by
  obtain ⟨later, rfl⟩ := h.events
  obtain ⟨phase, hp, _⟩ := h.turn
  have hl : client < (Event.calls last).length := by
    rw [← length_clients service last]
    exact (List.getElem?_eq_some_iff.1 hp).1
  rwa [Event.calls_append, List.getElem?_append_left hl] at hc

/-- A client that has its answer got it in one of its turns, and nothing is published for it after that. -/
theorem exists_answers (hc : (Event.calls events)[client]? = some call)
    (ha : ((start service).run events).answer? client = some answer) :
    ∃ last, (start service).Answers client answer last events ∧
      (start service).contribution client events = (start service).contribution client last := by
  have hrun := client_induction (motive := fun events phase => ∀ answer, phase = .finished answer →
    ∃ last, (start service).Answers client answer last events ∧
      (start service).contribution client events = (start service).contribution client last)
    service client call nofun ?_ events hc
  · obtain ⟨phase, hp, h⟩ := hrun
    rw [answer?, hp] at ha
    exact h answer (Phase.finished_of_answer ha)
  · intro events e phase next hp h hm answer hn
    have hkeep : (∀ p, ((start service).run events).publication? e = some p → p.client ≠ client) →
        phase = .finished answer → ∃ last, (start service).Answers client answer last (events ++ [e]) ∧
          (start service).contribution client (events ++ [e]) = (start service).contribution client last := by
      intro hw hf
      obtain ⟨last, hl, hcontribution⟩ := h answer hf
      exact ⟨last, hl.concat e, (contribution_waits hw).trans hcontribution⟩
    cases hm with
    | waits hw => exact hkeep hw hn
    | reply => cases hn
    | turn =>
        have hw : ∀ p, ((start service).run events).publication? (.poll client) = some p → p.client ≠ client := by
          simp [publication?]
        cases ho : phase.answer? with
        | none => exact ⟨events, answers_turn hp ho hn, contribution_waits hw⟩
        | some given =>
            obtain rfl := Phase.finished_of_answer ho
            exact hkeep hw hn

theorem afterFailure_notCoordinated (purpose : Purpose) {e : UpdateError}
    (h : afterFailure purpose e = .finished (.notCoordinated error)) : error = .update e := by
  cases purpose <;> cases h
  · rfl
  · rfl

theorem submit_failed {purpose : Purpose} {task : Task}
    (h : (sys.submit client purpose task).2 = .finished (.notCoordinated error)) : ∃ e, error = .update e := by
  unfold submit at h
  split at h
  · cases h
  · exact ⟨_, afterFailure_notCoordinated purpose h⟩

section Exclusion

variable {request : ExclusionRequest} {applied : List Publication}

/-- What fails before a task was submitted. -/
theorem beginExclusion_failed {s : ClusterState}
    (hd : (sys.beginExclusion client request).2 = .finished (.notCoordinated error)) :
    ExclusionFailure request s error [] := by
  unfold beginExclusion at hd
  split at hd
  case isTrue =>
    cases hd
    exact .invalid _
  case isFalse =>
    dsimp only at hd
    split at hd
    case h_1 fault _ =>
      cases hd
      exact .invalid fault
    case h_2 =>
      split at hd
      case isTrue => cases hd
      case isFalse =>
        split at hd
        case h_1 excess _ =>
          cases hd
          exact .excess excess
        case h_2 =>
          obtain ⟨e, rfl⟩ := submit_failed hd
          exact .update e

theorem excluding_look_failed {p : Publication} {found : ExclusionSet} {o : Observer} (hp : p.Stores request found)
    (ha : o.Attends sys.service) (hh : o.holds = (Await.effect found).isOver)
    (hd : (sys.look client (.coordination (.effect found)) o).2 = .finished (.notCoordinated error)) :
    ExclusionFailure request sys.service.state error [p] := by
  rcases look_failed ha hh hd with ⟨rfl, hn⟩ | rfl | ⟨⟨_, he⟩, _⟩
  · exact .timedOut hp (fun e => ClusterState.mem_stillVoting) (Await.exists_pending hn)
  · exact .unavailable hp
  · cases he

theorem Excluding.failed (h : Excluding request applied phase) (hs : ∀ p ∈ applied, p.Sound)
    (ho : phase.answer? = none) (ha : phase.Attends sys.service)
    (hd : (sys.proceed client phase).2 = .finished (.notCoordinated error)) :
    ExclusionFailure request sys.service.state error applied := by
  cases h with
  | ready => exact beginExclusion_failed hd
  | submitted => cases hd
  | refused resolved e =>
      obtain rfl := afterFailure_notCoordinated (.exclusion request resolved) (e := e) hd
      exact .update e
  | @applied p resolved ht hp =>
      obtain ⟨found, hf⟩ := resolve_of_sound ht hp
      rw [proceed_applied resolved hf] at hd
      exact excluding_look_failed (hp.stores ht hf) (Observer.attends_start _ _) rfl hd
  | @watching p found o ht hf hh =>
      exact excluding_look_failed ((hs p (List.mem_singleton_self p)).stores ht hf) (ha o rfl) hh hd
  | finished => cases ho

theorem contribution_sound (sys : System) (client : Nat) (events : List Event) :
    ∀ p ∈ sys.contribution client events, p.Sound := by
  intro p hp
  exact (history_linked sys events).sound p (List.mem_filter.1 hp).1

end Exclusion

section Clearing

variable {request : ClearRequest} {reading waiting : List Event} {applied : List Publication}

/-- How far a client has come that clears the exclusions, and what was applied for it until it knows. -/
inductive Removing (sys : System) (client : Nat) (request : ClearRequest) :
    List Event → List Publication → Phase → Prop
  | ready {events : List Event} : Removing sys client request events [] (.ready (.clear request))
  | watching {events reading waiting : List Event} {observer : Observer}
      (hr : sys.Reads client request reading waiting events)
      (ho : observer.holds = (Await.removal (sys.run reading).service.state.coordination.exclusions).isOver) :
      Removing sys client request events []
        (.watching (.coordination (.removal (sys.run reading).service.state.coordination.exclusions)) observer)
  | submitted {events reading waiting : List Event} (hr : sys.Reads client request reading waiting events) :
      Removing sys client request events [] (.submitted .clearing)
  | refused {events reading waiting : List Event} (hr : sys.Reads client request reading waiting events)
      (error : UpdateError) : Removing sys client request events [] (.replied .clearing (.error error))
  | applied {events : List Event} (applied : List Publication) (receipt : Receipt) :
      Removing sys client request events applied (.replied .clearing (.ok receipt))
  | finished {events : List Event} (applied : List Publication) (answer : Answer) :
      Removing sys client request events applied (.finished answer)

theorem Removing.concat (h : sys.Removing client request events applied phase) (e : Event) :
    sys.Removing client request (events ++ [e]) applied phase := by
  cases h with
  | ready => exact .ready
  | watching hr ho => exact .watching (hr.concat e) ho
  | submitted hr => exact .submitted (hr.concat e)
  | refused hr error => exact .refused (hr.concat e) error
  | applied applied receipt => exact .applied applied receipt
  | finished applied answer => exact .finished applied answer

theorem beginClearing_cases (sys : System) (client : Nat) (request : ClearRequest) :
    (sys.beginClearing client request).2 = .finished .done ∨
      sys.beginClearing client request =
        sys.wait client (.removal sys.service.state.coordination.exclusions) request.timeout ∨
      sys.beginClearing client request = sys.submit client .clearing .clear := by
  unfold beginClearing
  dsimp only
  split
  · exact .inl rfl
  · split
    · exact .inr (.inl rfl)
    · exact .inr (.inr rfl)

theorem Removing.submit (hr : sys.Reads client request reading waiting events) {other : System} :
    sys.Removing client request events [] (other.submit client .clearing .clear).2 := by
  rcases submit_phase .clearing .clear with ⟨h, _⟩ | ⟨answer, h, _⟩
  · rw [h]
    exact .submitted hr
  · rw [h]
    exact .finished [] answer

theorem Removing.look {o : Observer} (hr : sys.Reads client request reading waiting events) {other : System}
    (ho : o.holds = (Await.removal (sys.run reading).service.state.coordination.exclusions).isOver) :
    sys.Removing client request events [] (other.look client
      (.coordination (.removal (sys.run reading).service.state.coordination.exclusions)) o).2 := by
  rcases look_removal _ o with h | ⟨answer, h⟩ | ⟨h, _⟩
  · rw [h]
    exact .watching hr ho
  · rw [h]
    exact .finished [] answer
  · rw [h]
    exact .submitted hr

theorem Removing.turn (h : sys.Removing client request events applied phase)
    (hc : (sys.run events).clients[client]? = some phase) :
    sys.Removing client request (events ++ [.poll client]) applied ((sys.run events).proceed client phase).2 := by
  cases h with
  | ready =>
      have hr : sys.Reads client request events [] (events ++ [.poll client]) := ⟨rfl, hc⟩
      rw [proceed, begin]
      rcases beginClearing_cases (sys.run events) client request with h | h | h
      · rw [h]
        exact .finished [] .done
      · rw [h]
        exact .look hr rfl
      · rw [h]
        exact .submit hr
  | watching hr ho => exact .look (hr.concat _) ho
  | submitted hr => exact .submitted (hr.concat _)
  | refused hr error => exact .finished [] _
  | applied applied receipt => exact .finished applied _
  | finished applied answer => exact .finished applied answer

theorem removing_run (service : ClusterService) (events : List Event)
    (hc : (Event.calls events)[client]? = some (.clear request)) :
    ∃ phase, ((start service).run events).clients[client]? = some phase ∧
      (start service).Removing client request events ((start service).contribution client events) phase := by
  apply client_induction (motive := fun events phase => (start service).Removing client request events
    ((start service).contribution client events) phase) service client (.clear request)
  · intro events hp
    rw [hp]
    exact .ready
  · intro events e phase next hp h hm
    cases hm with
    | waits hw =>
        rw [contribution_waits hw]
        exact h.concat e
    | turn =>
        rw [contribution_waits (by simp [publication?])]
        exact h.turn hp
    | @reply purpose task rest hq hp ha =>
        subst hp
        cases hr : (((start service).run events).service.apply task).2 with
        | error error =>
            rw [contribution_refused hq hr]
            generalize (start service).contribution client events = applied at h
            cases h with
            | submitted hread => exact .refused (hread.concat _) error
        | ok receipt =>
            generalize (start service).contribution client events = applied at h
            cases h with
            | submitted => exact .applied _ receipt
  · exact hc

theorem clearing_look_failed {read : ExclusionSet} {o : Observer} (ha : o.Attends sys.service)
    (hh : o.holds = (Await.removal read).isOver)
    (hd : (sys.look client (.coordination (.removal read)) o).2 = .finished (.notCoordinated error)) :
    ClearingFailure read sys.service.state error := by
  rcases look_failed ha hh hd with ⟨rfl, hn⟩ | rfl | ⟨_, e, rfl⟩
  · exact .timedOut (fun e => ClusterState.mem_stillPresent) (Await.exists_pending hn)
  · exact .unavailable
  · exact .update e

/-- A client that could not clear had nothing published for it. -/
theorem Removing.failed (h : sys.Removing client request events applied phase)
    (hc : (sys.run events).clients[client]? = some phase) (ho : phase.answer? = none)
    (ha : phase.Attends (sys.run events).service)
    (hd : ((sys.run events).proceed client phase).2 = .finished (.notCoordinated error)) :
    applied = [] ∧ ∃ reading waiting, sys.Reads client request reading waiting (events ++ [.poll client]) ∧
      ClearingFailure (sys.run reading).service.state.coordination.exclusions (sys.run events).service.state
        error := by
  cases h with
  | ready =>
      refine ⟨rfl, events, [], ⟨rfl, hc⟩, ?_⟩
      rw [proceed, begin] at hd
      rcases beginClearing_cases (sys.run events) client request with h | h | h
      · rw [h] at hd
        cases hd
      · rw [h] at hd
        exact clearing_look_failed (Observer.attends_start _ _) rfl hd
      · rw [h] at hd
        obtain ⟨e, rfl⟩ := submit_failed hd
        exact .update e
  | @watching reading waiting o hr hh =>
      exact ⟨rfl, reading, _, hr.concat _, clearing_look_failed (ha o rfl) hh hd⟩
  | submitted => cases hd
  | @refused reading waiting hr e =>
      obtain rfl := afterFailure_notCoordinated .clearing (e := e) hd
      exact ⟨rfl, reading, _, hr.concat _, .update e⟩
  | applied => cases hd
  | finished => cases ho

end Clearing

/-- The text for a client whose time is over lists what is missing. -/
theorem message_timedOut (pending : Await) : ∃ head tail,
    (CoordinationError.timedOut pending).message = head ++ Exclusion.renderList pending.exclusions.toList ++ tail := by
  cases pending with
  | effect exclusions =>
      have h : (CoordinationError.timedOut (.effect exclusions)).message = "timed out waiting for " ++
        ("voting config exclusions " ++ Exclusion.renderList exclusions.toList ++ " to take effect") := rfl
      rw [h, ← String.append_assoc, ← String.append_assoc]
      exact ⟨_, _, rfl⟩
  | removal exclusions =>
      have h : (CoordinationError.timedOut (.removal exclusions)).message =
        "timed out waiting for removal of nodes; if nodes should not be removed, set " ++
          "waitForRemoval to false. " ++ Exclusion.renderList exclusions.toList := rfl
      rw [h]
      exact ⟨_, "", String.append_empty.symm⟩

/-- A client whose change of the exclusions failed had all of it published or nothing: of an addition what
it resolved to, if the client only waited for that in vain, and of clearing nothing. -/
theorem one_delta_or_nothing (ha : ((start service).run events).answer? client = some (.notCoordinated error)) :
    let sys := start service
    (∀ request, (Event.calls events)[client]? = some (.exclude request) →
      ∃ last, sys.Answers client (.notCoordinated error) last events ∧
        ExclusionFailure request (sys.run last).service.state error (sys.contribution client events)) ∧
    (∀ request, (Event.calls events)[client]? = some (.clear request) → sys.contribution client events = [] ∧
      ∃ last, sys.Answers client (.notCoordinated error) last events ∧
        ∃ reading waiting, sys.Reads client request reading waiting (last ++ [.poll client]) ∧
          ClearingFailure (sys.run reading).service.state.coordination.exclusions
            (sys.run last).service.state error) ∧
    ∀ pending, error = .timedOut pending →
      ∃ head tail, error.message = head ++ Exclusion.renderList pending.exclusions.toList ++ tail := by
  intro sys
  refine ⟨?_, ?_, ?_⟩
  · intro request hc
    obtain ⟨last, hl, hcontribution⟩ := exists_answers hc ha
    obtain ⟨phase, hp, ho, hd⟩ := hl.turn
    obtain ⟨_, hp', hx⟩ := excluding_run service last (hl.calls_last hc)
    cases hp.symm.trans hp'
    refine ⟨last, hl, ?_⟩
    rw [hcontribution]
    exact hx.failed (contribution_sound sys client last) ho (attentive_run service last client phase hp) hd
  · intro request hc
    obtain ⟨last, hl, hcontribution⟩ := exists_answers hc ha
    obtain ⟨phase, hp, ho, hd⟩ := hl.turn
    obtain ⟨_, hp', hx⟩ := removing_run service last (hl.calls_last hc)
    cases hp.symm.trans hp'
    obtain ⟨hnone, reading, waiting, hr, hf⟩ :=
      hx.failed hp ho (attentive_run service last client phase hp) hd
    exact ⟨hcontribution.trans hnone, last, hl, reading, waiting, hr, hf⟩
  · rintro pending rfl
    exact message_timedOut pending

end System

/-- While commits are stalled a node is excluded, and a client waits in vain for that to take effect. -/
def Event.excludingInVain : List Event :=
  served 0 [.stall true, .exclude ⟨[], ["n3"], [], 1⟩] ++ [.tick 1, .poll 1]

/-- A node is excluded, and a client waits in vain for it to leave. -/
def Event.clearingInVain : List Event :=
  served 0 [.exclude (.ofIds ["n3"])] ++ [.call (.clear ⟨true, 0⟩), .poll 1]

namespace System

/-- The exclusion is stored though it took no effect, and the node is not accepted any more. Clearing in vain leaves
all as it is. -/
theorem stored_and_not_cleared :
    (∃ p found, trio.contribution 1 Event.excludingInVain = [p] ∧ p.Stores ⟨[], ["n3"], [], 1⟩ found ∧
      ⟨"n3", "node3"⟩ ∈ p.state.coordination.exclusions ∧ p.state.coordination.accepted.contains "n3" = false) ∧
      trio.contribution 1 Event.clearingInVain = [] := by
  have hexclude : (trio.run Event.excludingInVain).answer? 1 =
      some (.notCoordinated (.timedOut (.effect (.ofList [⟨"n3", "node3"⟩])))) := rfl
  have hclear : (trio.run Event.clearingInVain).answer? 1 =
      some (.notCoordinated (.timedOut (.removal (.ofList [⟨"n3", "node3"⟩])))) := rfl
  obtain ⟨hadd, _⟩ := one_delta_or_nothing hexclude
  obtain ⟨_, hremove, _⟩ := one_delta_or_nothing hclear
  refine ⟨?_, (hremove ⟨true, 0⟩ rfl).1⟩
  obtain ⟨last, _, h⟩ := hadd ⟨[], ["n3"], [], 1⟩ rfl
  generalize hcontribution : (start (.start (.bootstrap .trio) .initial [AllocationService.builtin.reconcile])).contribution
    1 Event.excludingInVain = applied at h
  cases h with
  | @timedOut p found pending hp hm =>
      have hmember : p ∈ trio.history Event.excludingInVain :=
        (List.mem_filter.1 (hcontribution ▸ List.mem_singleton_self p)).1
      have htakes : p.before.TakesIn found p.state := by
        refine hp.published ?_
        rw [history_reconcilers _ _ p hmember]
        exact trio_keepsMembership
      have hstored : (⟨"n3", "node3"⟩ : Exclusion) ∈ p.state.coordination.exclusions :=
        (htakes.exclusions _).2 (.inr ((hm _).1 (by decide)).1)
      refine ⟨p, found, hcontribution, hp, hstored, Bool.eq_false_iff.2 fun hv => ?_⟩
      obtain ⟨_, _, _, _, hn⟩ := (htakes.accepted "n3").1 hv
      exact hn _ hstored rfl

end System

end ClusterControl
