import ClusterControl.Cluster.System

/-!
What a client's turn can change. It leaves the published state alone; all that it passes on is a
task at the end of the queue, and then the client waits for the reply.
-/

namespace ClusterControl

/-- The tasks that a client may wait for with this purpose. -/
inductive Purpose.Asks : Purpose → Task → Prop
  | exclusion (request : ExclusionRequest) (resolved : ExclusionSet) :
      Asks (.exclusion request resolved) (.exclude request)
  | clearing : Asks .clearing .clear
  | update (task : Task) : Asks .update task

theorem Purpose.Asks.eq_clear {task : Task} (h : Asks .clearing task) : task = .clear := by
  cases h
  rfl

/-- The task that a client in this phase may submit, and what for. -/
inductive Phase.Submits : Phase → Purpose → Task → Prop
  | exclusion (request : ExclusionRequest) (resolved : ExclusionSet) :
      Submits (.ready (.exclude request)) (.exclusion request resolved) (.exclude request)
  | clearing (request : ClearRequest) : Submits (.ready (.clear request)) .clearing .clear
  | removed (exclusions : ExclusionSet) (observer : Observer) :
      Submits (.watching (.coordination (.removal exclusions)) observer) .clearing .clear
  | update (task : Task) : Submits (.ready (.update task)) .update task

namespace Phase

variable {phase : Phase} {purpose : Purpose} {task : Task}

theorem finished_of_answer {answer : Answer} (h : phase.answer? = some answer) : phase = .finished answer := by
  cases phase with
  | finished => exact congrArg finished (Option.some.inj h)
  | ready | submitted | replied | watching => cases h

theorem Submits.asks (h : phase.Submits purpose task) : purpose.Asks task := by
  cases h with
  | exclusion request resolved => exact .exclusion request resolved
  | clearing | removed => exact .clearing
  | update task => exact .update task

theorem Submits.not_submitted (h : phase.Submits purpose task) (other : Purpose) :
    phase ≠ .submitted other := by
  cases h <;> intro he <;> cases he

end Phase

/-- What a client's turn may do to the service. -/
inductive ClusterService.Handled (service : ClusterService) : ClusterService → Prop
  | same : Handled service service
  | stall (stalled : Bool) : Handled service (service.stall stalled)
  | configure (board : SettingsBoard) : Handled service { service with board }
  | shutdown : Handled service service.shutdown

namespace ClusterService.Handled

variable {service next : ClusterService} (h : service.Handled next)
include h

theorem state : next.state = service.state := by
  cases h <;> rfl

theorem published : next.published = service.published := by
  cases h <;> rfl

theorem reconcilers : next.reconcilers = service.reconcilers := by
  cases h <;> rfl

end ClusterService.Handled

namespace System

/-- What a client's turn leaves alone, and how it may extend the queue of an open service. -/
structure Turn (sys : System) (client : Nat) (phase : Phase) (result : System × Phase) : Prop where
  clients : result.1.clients = sys.clients
  service : sys.service.Handled result.1.service
  begun : ∀ call, result.2 ≠ .ready call
  queue : (result.1.queue = sys.queue ∧ ∀ purpose, result.2 = .submitted purpose → phase = .submitted purpose) ∨
    ∃ purpose task, phase.Submits purpose task ∧ result.2 = .submitted purpose ∧
      result.1.queue = sys.queue ++ [(client, task)]
  taken : result.1.queue ≠ sys.queue → sys.service.isOpen = true ∧ result.1.service = sys.service

variable {sys : System} {client : Nat} {phase : Phase}

/-- A turn without a task of its own. -/
theorem turn_handled {service : ClusterService} {next : Phase} (hs : sys.service.Handled service)
    (hb : ∀ call, next ≠ .ready call) (h : ∀ purpose, next = .submitted purpose → phase = .submitted purpose) :
    Turn sys client phase ({ sys with service := service }, next) :=
  ⟨rfl, hs, hb, .inl ⟨rfl, h⟩, fun hq => absurd rfl hq⟩

theorem turn_stay {next : Phase} (hb : ∀ call, next ≠ .ready call)
    (h : ∀ purpose, next = .submitted purpose → phase = .submitted purpose) :
    Turn sys client phase (sys, next) :=
  turn_handled .same hb h

theorem turn_finish (answer : Answer) : Turn sys client phase (sys, .finished answer) :=
  turn_stay nofun nofun

theorem afterFailure_finished (purpose : Purpose) (error : UpdateError) :
    ∃ answer, afterFailure purpose error = .finished answer ∧ answer ≠ .done := by
  cases purpose with
  | update => exact ⟨_, rfl, by simp⟩
  | exclusion | clearing => exact ⟨_, rfl, by simp⟩

theorem turn_failure (purpose : Purpose) (error : UpdateError) :
    Turn sys client phase (sys, afterFailure purpose error) := by
  obtain ⟨answer, he, _⟩ := afterFailure_finished purpose error
  rw [he]
  exact turn_finish answer

theorem turn_submit {purpose : Purpose} {task : Task} (h : phase.Submits purpose task) :
    Turn sys client phase (sys.submit client purpose task) := by
  unfold submit
  split
  case isTrue ho => exact ⟨rfl, .same, nofun, .inr ⟨purpose, task, h, rfl, rfl⟩, fun _ => ⟨ho, rfl⟩⟩
  case isFalse => exact turn_failure purpose _

theorem turn_afterWatch {watch : Watch} {seen : Observed}
    (h : ∀ exclusions, watch = .coordination (.removal exclusions) → phase.Submits .clearing .clear) :
    Turn sys client phase (sys.afterWatch client watch seen) := by
  cases watch with
  | report | listener => exact turn_finish _
  | coordination wait =>
      cases wait with
      | effect exclusions => cases seen <;> exact turn_finish _
      | removal exclusions =>
          cases seen with
          | matched => exact turn_submit (h exclusions rfl)
          | timedOut | closed => exact turn_finish _

theorem turn_look {watch : Watch} {observer : Observer}
    (h : ∀ exclusions, watch = .coordination (.removal exclusions) → phase.Submits .clearing .clear) :
    Turn sys client phase (sys.look client watch observer) := by
  unfold look
  split
  · exact turn_afterWatch h
  · exact turn_stay nofun nofun

theorem turn_wait {wait : Await} {timeout : Nat}
    (h : ∀ exclusions, wait = .removal exclusions → phase.Submits .clearing .clear) :
    Turn sys client phase (sys.wait client wait timeout) :=
  turn_look (fun exclusions he => h exclusions (Watch.coordination.inj he))

theorem turn_afterReply {purpose : Purpose} {reply : Except UpdateError Receipt} :
    Turn sys client phase (sys.afterReply client purpose reply) := by
  cases reply with
  | error error => exact turn_failure purpose error
  | ok receipt =>
      cases purpose with
      | update | clearing => exact turn_finish _
      | exclusion request resolved => exact turn_wait nofun

/-- Notices are told to nobody but the reader. -/
theorem Turn.of_notices (notices : List String) {result : System × Phase}
    (h : Turn { sys with notices := notices } client phase result) : Turn sys client phase result :=
  ⟨h.clients, h.service, h.begun, h.queue, h.taken⟩

theorem turn_beginExclusion (request : ExclusionRequest) :
    Turn sys client (.ready (.exclude request)) (sys.beginExclusion client request) := by
  unfold beginExclusion
  split
  · exact turn_finish _
  · apply Turn.of_notices (sys.notices ++ request.deprecation?.toList)
    dsimp only
    split
    · exact turn_finish _
    · split
      · exact turn_finish _
      · split
        · exact turn_finish _
        · exact turn_submit (.exclusion request _)

theorem turn_beginClearing (request : ClearRequest) :
    Turn sys client (.ready (.clear request)) (sys.beginClearing client request) := by
  unfold beginClearing
  dsimp only
  split
  · exact turn_finish _
  · split
    · exact turn_wait (fun _ _ => .clearing request)
    · exact turn_submit (.clearing request)

theorem turn_set (key value : String) : Turn sys client phase (sys.set key value) := by
  unfold set
  split
  · exact turn_handled (.configure _) nofun nofun
  · exact turn_finish _

theorem turn_begin (call : Call) : Turn sys client (.ready call) (sys.begin client call) := by
  cases call with
  | exclude request => exact turn_beginExclusion request
  | clear request => exact turn_beginClearing request
  | update task => exact turn_submit (.update task)
  | observe holds timeout => exact turn_look nofun
  | listen holds timeout => exact turn_stay nofun nofun
  | stall stalled => exact turn_handled (.stall stalled) nofun nofun
  | shutdown => exact turn_handled .shutdown nofun nofun
  | set key value => exact turn_set key value

theorem turn_proceed (sys : System) (client : Nat) (phase : Phase) :
    Turn sys client phase (sys.proceed client phase) := by
  cases phase with
  | ready call => exact turn_begin call
  | replied purpose reply => exact turn_afterReply
  | watching watch observer =>
      apply turn_look
      rintro exclusions rfl
      exact .removed exclusions observer
  | submitted | finished => exact turn_stay nofun (fun _ h => h)

theorem step_poll (h : sys.clients[client]? = some phase) :
    sys.step (.poll client) =
      { (sys.proceed client phase).1 with clients := sys.clients.set client (sys.proceed client phase).2 } := by
  simp only [step, h, (turn_proceed sys client phase).clients]

theorem step_poll_state (h : sys.clients[client]? = some phase) :
    (sys.step (.poll client)).service.state = sys.service.state := by
  rw [step_poll h]
  exact (turn_proceed sys client phase).service.state

theorem step_poll_none (h : sys.clients[client]? = none) : sys.step (.poll client) = sys := by
  simp only [step, h]

theorem step_apply {task : Task} {rest : List (Nat × Task)} (h : sys.queue = (client, task) :: rest) :
    sys.step .apply =
      { sys with
        service := (sys.service.apply task).1
        queue := rest
        clients := sys.clients.modify client (Phase.receive (sys.service.apply task).2) } := by
  simp only [step, h]

theorem step_apply_nil (h : sys.queue = []) : sys.step .apply = sys := by
  simp only [step, h]

end System

end ClusterControl
