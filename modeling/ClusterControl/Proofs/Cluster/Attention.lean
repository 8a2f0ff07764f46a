import ClusterControl.Proofs.Cluster.Clients
import ClusterControl.Proofs.Cluster.Watching

/-!
Observers miss nothing: a state that an observer has looked at, and that is still the newest, did not
match. So one whose time is over gives up in a state that does not match, and the client that waits
through it is told what is missing in that state.
-/

namespace ClusterControl

namespace Observer

/-- The observer has looked at no later publication than the newest, and if at that one, in vain. -/
def Attends (o : Observer) (service : ClusterService) : Prop :=
  ∀ n, o.seen = some n → n ≤ service.published ∧ (n = service.published → o.holds service.state = false)

variable {o : Observer} {service next : ClusterService} {now : Nat}

theorem attends_start (holds : ClusterState → Bool) (deadline : Option Nat) :
    (start holds deadline).Attends service :=
  nofun

theorem Attends.of_eq (h : o.Attends service) (hp : next.published = service.published)
    (hs : next.state = service.state) : o.Attends next := by
  intro n hn
  rw [hp, hs]
  exact h n hn

theorem Attends.publish (h : o.Attends service) (s : ClusterState) : o.Attends (service.publish s) := by
  intro n hn
  have hle := (h n hn).1
  simp only [ClusterService.publish]
  omega

/-- What an observer finds if it does not find what it looks for. -/
theorem Attends.not_holds (h : o.Attends service) (now : Nat) (hl : ∀ s, o.look? service now ≠ some (.matched s)) :
    o.holds service.state = false := by
  cases hb : o.isBehind service with
  | false =>
      have hseen : o.seen = some service.published := by simpa [isBehind] using hb
      exact (h _ hseen).2 rfl
  | true =>
      by_contra hh
      rw [Bool.not_eq_false] at hh
      exact hl service.state (by simp [look?, hb, hh])

theorem Attends.afterLook (h : o.Attends service) (hl : o.look? service now = none) :
    (o.afterLook service).Attends service := by
  have hn : o.holds service.state = false := h.not_holds now (by simp [hl])
  rintro n ⟨⟩
  exact ⟨Nat.le_refl _, fun _ => hn⟩

theorem state_of_timedOut {last : ClusterState} (h : o.look? service now = some (.timedOut last)) :
    last = service.state := by
  unfold look? at h
  split at h
  case isTrue => cases h
  case isFalse =>
    split at h
    case isTrue => cases h
    case isFalse =>
      split at h
      case isTrue =>
        cases h
        rfl
      case isFalse => cases h

end Observer

namespace Phase

def Attends (phase : Phase) (service : ClusterService) : Prop :=
  ∀ o, phase.observer? = some o → o.Attends service

theorem attends_of_observer {phase : Phase} {service : ClusterService} (h : phase.observer? = none) :
    phase.Attends service := by
  intro o ho
  rw [h] at ho
  cases ho

@[simp] theorem observer?_receive (reply : Except UpdateError Receipt) (phase : Phase) :
    (phase.receive reply).observer? = phase.observer? := by
  cases phase <;> rfl

end Phase

namespace System

variable {sys : System} {client : Nat} {phase : Phase} {o : Observer}

theorem submit_observer (purpose : Purpose) (task : Task) : (sys.submit client purpose task).2.observer? = none := by
  rcases submit_phase purpose task with ⟨h, _⟩ | ⟨answer, h, _⟩
  · rw [h]
    rfl
  · rw [h]
    rfl

theorem afterWatch_observer (watch : Watch) (seen : Observed) :
    (sys.afterWatch client watch seen).2.observer? = none := by
  cases watch with
  | report | listener => rfl
  | coordination wait =>
      cases wait with
      | effect => cases seen <;> rfl
      | removal =>
          cases seen with
          | matched => exact submit_observer _ _
          | timedOut | closed => rfl

theorem look_attends (watch : Watch) (h : o.Attends sys.service) :
    (sys.look client watch o).2.Attends (sys.look client watch o).1.service := by
  unfold look
  split
  case h_1 seen _ => exact Phase.attends_of_observer (afterWatch_observer watch seen)
  case h_2 hl =>
    rintro _ ⟨⟩
    exact h.afterLook hl

theorem beginExclusion_observer (request : ExclusionRequest) :
    (sys.beginExclusion client request).2.observer? = none := by
  unfold beginExclusion
  split
  · rfl
  · dsimp only
    split
    · rfl
    · split
      · rfl
      · split
        · rfl
        · exact submit_observer _ _

theorem begin_attends (call : Call) :
    (sys.begin client call).2.Attends (sys.begin client call).1.service := by
  cases call with
  | exclude request => exact Phase.attends_of_observer (beginExclusion_observer request)
  | clear request =>
      simp only [begin, beginClearing]
      split
      · exact Phase.attends_of_observer rfl
      · split
        · exact look_attends _ (Observer.attends_start _ _)
        · exact Phase.attends_of_observer (submit_observer _ _)
  | update task => exact Phase.attends_of_observer (submit_observer _ _)
  | observe holds timeout => exact look_attends _ (Observer.attends_start _ _)
  | listen holds timeout =>
      rintro _ ⟨⟩
      exact Observer.attends_start _ _
  | stall | shutdown => exact Phase.attends_of_observer rfl
  | set key value =>
      simp only [begin, set]
      split <;> exact Phase.attends_of_observer rfl

theorem proceed_attends (h : phase.Attends sys.service) :
    (sys.proceed client phase).2.Attends (sys.proceed client phase).1.service := by
  cases phase with
  | ready call => exact begin_attends call
  | watching watch o => exact look_attends watch (h o rfl)
  | submitted | finished => exact h
  | replied purpose reply =>
      cases reply with
      | error => cases purpose <;> exact Phase.attends_of_observer rfl
      | ok receipt =>
          cases purpose with
          | update | clearing => exact Phase.attends_of_observer rfl
          | exclusion => exact look_attends _ (Observer.attends_start _ _)

/-- No observer has missed what was published. -/
def Attentive (sys : System) : Prop :=
  ∀ (client : Nat) (phase : Phase), sys.clients[client]? = some phase → phase.Attends sys.service

theorem Attentive.poll (h : sys.Attentive) (hc : sys.clients[client]? = some phase) :
    (sys.step (.poll client)).Attentive := by
  have hs := (turn_proceed sys client phase).service
  rw [step_poll hc]
  intro other next ho
  rw [List.getElem?_set] at ho
  split at ho
  case isTrue =>
    split at ho
    case isTrue =>
      cases ho
      exact proceed_attends (h client phase hc)
    case isFalse => cases ho
  case isFalse =>
    intro o hn
    exact (h other next ho o hn).of_eq hs.published hs.state

theorem Attentive.apply (h : sys.Attentive) : (sys.step .apply).Attentive := by
  cases hq : sys.queue with
  | nil => rwa [step_apply_nil hq]
  | cons entry rest =>
      obtain ⟨client, task⟩ := entry
      rw [step_apply hq]
      intro other next ho o hn
      have hold : o.Attends sys.service := by
        rw [List.getElem?_modify] at ho
        obtain ⟨phase, hc, rfl⟩ := Option.map_eq_some_iff.1 ho
        refine h other phase hc o ?_
        split at hn
        case isTrue => rwa [Phase.observer?_receive] at hn
        case isFalse => exact hn
      cases hr : (sys.service.apply task).2 with
      | error error => simpa only [ClusterService.apply_error hr] using hold
      | ok receipt =>
          simp only [(ClusterService.apply_ok hr).2.1]
          exact hold.publish receipt.after

theorem attentive_run (service : ClusterService) (events : List Event) :
    ((start service).run events).Attentive := by
  apply run_induction (motive := fun _ sys => sys.Attentive)
  · simp [Attentive, start]
  · intro events e h
    cases e with
    | tick => exact h
    | apply => exact h.apply
    | poll client =>
        cases hc : ((start service).run events).clients[client]? with
        | none => rwa [step_poll_none hc]
        | some phase => exact h.poll hc
    | call call =>
        intro client phase hc
        rw [step, List.getElem?_append] at hc
        split at hc
        case isTrue => exact h client phase hc
        case isFalse =>
          rw [List.getElem?_singleton] at hc
          split at hc
          case isTrue =>
            cases hc
            exact Phase.attends_of_observer rfl
          case isFalse => cases hc

/-- How a wait can fail: its time is over in a state where it is not, or the service closes, or, where it is
for nodes to leave, the task that follows is not taken. -/
theorem look_failed {wait : Await} {error : CoordinationError} (h : o.Attends sys.service)
    (hh : o.holds = wait.isOver)
    (hd : (sys.look client (.coordination wait) o).2 = .finished (.notCoordinated error)) :
    (error = .timedOut (wait.pending sys.service.state) ∧ wait.isOver sys.service.state = false) ∨
      error = .unavailable wait ∨ (∃ exclusions, wait = .removal exclusions) ∧ ∃ e, error = .update e := by
  unfold look at hd
  cases hl : o.look? sys.service sys.clock with
  | none => simp [hl] at hd
  | some seen =>
      simp only [hl] at hd
      cases seen with
      | timedOut last =>
          obtain rfl := Observer.state_of_timedOut hl
          have hn : o.holds sys.service.state = false := h.not_holds sys.clock (by simp [hl])
          rw [hh] at hn
          cases wait <;> cases hd <;> exact .inl ⟨rfl, hn⟩
      | closed => cases wait <;> cases hd <;> exact .inr (.inl rfl)
      | matched s =>
          cases wait with
          | effect => cases hd
          | removal exclusions =>
              simp only [afterWatch, submit] at hd
              split at hd
              case isTrue => cases hd
              case isFalse =>
                cases hd
                exact .inr (.inr ⟨⟨exclusions, rfl⟩, _, rfl⟩)

end System

end ClusterControl
