import ClusterControl.Proofs.Cluster.Turn
import Mathlib.Data.List.Induction

/-!
The history of a run: the tasks that were applied, each with the service that applied it and the
state that it published. Each task sees the state that the one before it published.
-/

namespace ClusterControl

namespace ClusterService

variable {service : ClusterService} {task : Task} {receipt : Receipt}

theorem compute_ok {next : ClusterState} (h : service.compute task = .ok next) :
    service.isOpen = true ∧ task.run service.settings service.state = .ok next := by
  unfold compute at h
  split at h
  case isTrue => cases h
  case isFalse ho =>
    split at h
    case h_1 => cases h
    case h_2 hr =>
      cases h
      exact ⟨by simpa using ho, hr⟩

theorem conclude_ok {computed : Except UpdateError ClusterState} (h : (service.conclude computed).2 = .ok receipt) :
    ∃ next, computed = .ok next ∧ service.isOpen = true ∧ receipt = ⟨service.state, service.succeed service.state next⟩ ∧
      (service.conclude computed).1 = service.publish receipt.after := by
  cases computed with
  | error => cases h
  | ok next =>
      simp only [conclude] at h ⊢
      split at h
      case isTrue => cases h
      case isFalse ho =>
        cases h
        refine ⟨next, rfl, by simpa using ho, rfl, ?_⟩
        simp [ho]

theorem conclude_error {computed : Except UpdateError ClusterState} {error : UpdateError}
    (h : (service.conclude computed).2 = .error error) : (service.conclude computed).1 = service := by
  cases computed with
  | error => rfl
  | ok next =>
      simp only [conclude] at h ⊢
      split at h
      case isTrue ho => simp [ho]
      case isFalse => cases h

theorem apply_ok (h : (service.apply task).2 = .ok receipt) :
    service.isOpen = true ∧ (service.apply task).1 = service.publish receipt.after ∧
      receipt.before = service.state ∧
      ∃ next, task.run service.settings service.state = .ok next ∧
        receipt.after = service.succeed service.state next := by
  obtain ⟨next, hn, ho, hr, hs⟩ := conclude_ok h
  subst hr
  exact ⟨ho, hs, rfl, next, (compute_ok hn).2, rfl⟩

theorem apply_error {error : UpdateError} (h : (service.apply task).2 = .error error) :
    (service.apply task).1 = service :=
  conclude_error h

/-- The state `after` is what the service publishes where a task computed `next`: what the reconcilers make of that,
with the version that follows, and with its own accepted configuration committed unless commits are stalled. -/
structure Releases (service : ClusterService) (next after : ClusterState) : Prop where
  version : after.version = service.state.version + 1
  committed : after.coordination.committed =
    if service.stalled then service.state.coordination.committed else after.coordination.accepted
  rest : after = { service.reconcilers.foldl (fun s reconcile => reconcile service.settings s) next with
    version := after.version
    coordination.committed := after.coordination.committed }

theorem releases_succeed (service : ClusterService) (next : ClusterState) :
    service.Releases next (service.succeed service.state next) :=
  ⟨rfl, rfl, rfl⟩

end ClusterService

/-- A task that was applied for a client, and the state that it published. -/
structure Publication where
  client : Nat
  task : Task
  /-- The service as it applied the task. -/
  service : ClusterService
  state : ClusterState

namespace Publication

/-- The state that the task saw. -/
def before (p : Publication) : ClusterState :=
  p.service.state

/-- The service applied the task and answered with this state. -/
def Sound (p : Publication) : Prop :=
  (p.service.apply p.task).2 = .ok ⟨p.before, p.state⟩

theorem sound_of_apply {service : ClusterService} {task : Task} {receipt : Receipt} (client : Nat)
    (h : (service.apply task).2 = .ok receipt) : Sound ⟨client, task, service, receipt.after⟩ := by
  obtain ⟨_, _, hb, _⟩ := ClusterService.apply_ok h
  rw [Sound, h, before, ← hb]

end Publication

/-- Publications that lead from one state to another, each starting where the last one ended. -/
inductive Linked : ClusterState → List Publication → ClusterState → Prop
  | nil (s : ClusterState) : Linked s [] s
  | cons {p : Publication} {history : List Publication} {last : ClusterState} (hp : p.Sound)
      (h : Linked p.state history last) : Linked p.before (p :: history) last

namespace Linked

variable {first middle last : ClusterState} {history older newer : List Publication}

theorem append (h : Linked first older middle) (h' : Linked middle newer last) :
    Linked first (older ++ newer) last := by
  induction h with
  | nil => exact h'
  | cons hp _ ih => exact .cons hp (ih h')

theorem split (h : Linked first (older ++ newer) last) :
    ∃ middle, Linked first older middle ∧ Linked middle newer last := by
  induction older generalizing first with
  | nil => exact ⟨first, .nil first, h⟩
  | cons p older ih =>
      cases h with
      | cons hp h =>
          obtain ⟨middle, ho, hn⟩ := ih h
          exact ⟨middle, .cons hp ho, hn⟩

theorem sound (h : Linked first history last) : ∀ p ∈ history, p.Sound := by
  induction h with
  | nil => simp
  | cons hp _ ih =>
      intro q hq
      rcases List.mem_cons.1 hq with rfl | hq
      · exact hp
      · exact ih q hq

/-- What holds at first and is kept by each publication holds of every state after it. -/
theorem keeps {P : ClusterState → Prop} (h : Linked first history last) (hf : P first)
    (hk : ∀ p ∈ history, P p.before → P p.state) : P last ∧ ∀ p ∈ history, P p.state := by
  induction h with
  | nil => exact ⟨hf, by simp⟩
  | @cons p history last _ _ ih =>
      have hp := hk p List.mem_cons_self hf
      obtain ⟨hl, ha⟩ := ih hp (fun q hq => hk q (List.mem_cons_of_mem _ hq))
      refine ⟨hl, ?_⟩
      intro q hq
      rcases List.mem_cons.1 hq with rfl | hq
      · exact hp
      · exact ha q hq

/-- What comes to hold comes to hold by one of the publications. -/
theorem exists_turn {P : ClusterState → Prop} (h : Linked first history last) (hf : ¬ P first)
    (hl : P last) : ∃ p ∈ history, ¬ P p.before ∧ P p.state := by
  by_contra hn
  push Not at hn
  exact (h.keeps (P := fun s => ¬ P s) hf (fun p hp hb => hn p hp hb)).1 hl

/-- What holds at last held all along, or since some publication brought it about. -/
theorem since {P : ClusterState → Prop} (h : Linked first history last) (hl : P last) :
    (P first ∧ ∀ p ∈ history, P p.state) ∨
      ∃ older p recent, history = older ++ p :: recent ∧ ¬ P p.before ∧ ∀ q ∈ p :: recent, P q.state := by
  induction h with
  | nil => exact .inl ⟨hl, by simp⟩
  | @cons p history last _ _ ih =>
      rcases ih hl with ⟨hp, ha⟩ | ⟨older, q, recent, rfl, hq, ha⟩
      · have ha' : ∀ q ∈ p :: history, P q.state := List.forall_mem_cons.2 ⟨hp, ha⟩
        by_cases hb : P p.before
        · exact .inl ⟨hb, ha'⟩
        · exact .inr ⟨[], p, history, rfl, hb, ha'⟩
      · exact .inr ⟨p :: older, q, recent, rfl, hq, ha⟩

end Linked

namespace System

theorem run_append (sys : System) (events more : List Event) :
    sys.run (events ++ more) = (sys.run events).run more :=
  List.foldl_append

theorem run_concat (sys : System) (events : List Event) (e : Event) :
    sys.run (events ++ [e]) = (sys.run events).step e :=
  run_append sys events [e]

/-- What holds of a system and is kept by each event holds after every run. -/
theorem run_induction {motive : List Event → System → Prop} (start : System) (h : motive [] start)
    (hs : ∀ events e, motive events (start.run events) → motive (events ++ [e]) ((start.run events).step e))
    (events : List Event) : motive events (start.run events) := by
  induction events using List.reverseRecOn with
  | nil => exact h
  | append_singleton events e ih =>
      rw [run_concat]
      exact hs events e ih

/-- The publication that an event brings about, if it applies a task with success. -/
def publication? (sys : System) : Event → Option Publication
  | .apply =>
    match sys.queue with
    | [] => none
    | (client, task) :: _ =>
      match (sys.service.apply task).2 with
      | .ok receipt => some ⟨client, task, sys.service, receipt.after⟩
      | .error _ => none
  | _ => none

/-- The publications of a run, in their order. -/
def history (sys : System) : List Event → List Publication
  | [] => []
  | e :: events => (sys.publication? e).toList ++ (sys.step e).history events

theorem history_append (sys : System) (events more : List Event) :
    sys.history (events ++ more) = sys.history events ++ (sys.run events).history more := by
  induction events generalizing sys with
  | nil => rfl
  | cons e events ih =>
      rw [List.cons_append, history, ih, history, List.append_assoc]
      rfl

theorem mem_history_append {sys : System} {events more : List Event} {p : Publication}
    (h : p ∈ (sys.run events).history more) : p ∈ sys.history (events ++ more) := by
  rw [history_append]
  exact List.mem_append_right _ h

theorem history_concat (sys : System) (events : List Event) (e : Event) :
    sys.history (events ++ [e]) = sys.history events ++ ((sys.run events).publication? e).toList := by
  rw [history_append, history, history, List.append_nil]

variable {sys : System} {e : Event} {p : Publication}

theorem publication?_eq_some (h : sys.publication? e = some p) :
    e = .apply ∧ (∃ rest, sys.queue = (p.client, p.task) :: rest) ∧ p.service = sys.service ∧ p.Sound ∧
      (sys.step e).service = sys.service.publish p.state := by
  cases e with
  | call | poll | tick => cases h
  | apply =>
      simp only [publication?] at h
      split at h
      case h_1 => cases h
      case h_2 client task rest hq =>
        split at h
        case h_1 receipt hr =>
          cases h
          obtain ⟨_, hs, _⟩ := ClusterService.apply_ok hr
          refine ⟨rfl, ⟨rest, hq⟩, rfl, Publication.sound_of_apply client hr, ?_⟩
          rw [step_apply hq, hs]
        case h_2 => cases h

theorem publication?_eq_none (h : sys.publication? e = none) :
    (sys.step e).service.state = sys.service.state := by
  cases e with
  | call | tick => rfl
  | poll client =>
      cases hc : sys.clients[client]? with
      | none => rw [step_poll_none hc]
      | some phase => exact step_poll_state hc
  | apply =>
      simp only [publication?] at h
      split at h
      case h_1 hq => rw [step_apply_nil hq]
      case h_2 client task rest hq =>
        split at h
        case h_1 => cases h
        case h_2 error hr => rw [step_apply hq, ClusterService.apply_error hr]

theorem step_reconcilers (sys : System) (e : Event) :
    (sys.step e).service.reconcilers = sys.service.reconcilers := by
  cases e with
  | call | tick => rfl
  | poll client =>
      cases hc : sys.clients[client]? with
      | none => rw [step_poll_none hc]
      | some phase =>
          rw [step_poll hc]
          exact (turn_proceed sys client phase).service.reconcilers
  | apply =>
      cases hq : sys.queue with
      | nil => rw [step_apply_nil hq]
      | cons entry rest =>
          rw [step_apply hq]
          cases hr : (sys.service.apply entry.2).2 with
          | ok receipt => simp only [(ClusterService.apply_ok hr).2.1, ClusterService.publish]
          | error error => simp only [ClusterService.apply_error hr]

theorem step_linked (sys : System) (e : Event) :
    Linked sys.service.state (sys.publication? e).toList (sys.step e).service.state := by
  cases h : sys.publication? e with
  | none =>
      rw [publication?_eq_none h]
      exact .nil _
  | some p =>
      obtain ⟨_, _, hs, hp, hn⟩ := publication?_eq_some h
      rw [hn, ← hs]
      exact .cons hp (.nil _)

theorem history_linked (sys : System) (events : List Event) :
    Linked sys.service.state (sys.history events) (sys.run events).service.state := by
  induction events generalizing sys with
  | nil => exact .nil _
  | cons e events ih => exact (step_linked sys e).append (ih (sys.step e))

theorem history_reconcilers (sys : System) (events : List Event) :
    ∀ p ∈ sys.history events, p.service.reconcilers = sys.service.reconcilers := by
  induction events generalizing sys with
  | nil =>
      intro p hp
      cases hp
  | cons e events ih =>
      intro p hp
      rcases List.mem_append.1 hp with hp | hp
      · obtain ⟨_, _, hs, _⟩ := publication?_eq_some (Option.mem_toList.1 hp)
        rw [hs]
      · rw [ih (sys.step e) p hp, step_reconcilers]

end System

end ClusterControl
