import ClusterControl.Proofs.Cluster.Clients

/-!
Runs of a new cluster whose clients change its membership only. Every publication is one of the four
changes, committed at once unless commits are stalled.
-/

namespace ClusterControl

/-- A call whose task, if it names one itself, is a change of membership. -/
def Call.WithinMembership : Call → Prop
  | .update task => ∃ change : Change, task = change.task
  | _ => True

namespace Phase

variable {phase : Phase} {purpose : Purpose} {task : Task}

theorem Submits.is_change (h : phase.Submits purpose task)
    (hr : ∀ call, phase = .ready call → call.WithinMembership) : ∃ change : Change, task = change.task := by
  cases h with
  | exclusion request => exact ⟨.exclude request, rfl⟩
  | clearing | removed => exact ⟨.clear, rfl⟩
  | update => exact hr _ rfl

theorem ready_of_receive {reply : Except UpdateError Receipt} {call : Call}
    (h : phase.receive reply = .ready call) : phase = .ready call := by
  cases phase with
  | submitted => cases h
  | ready | replied | watching | finished => exact h

end Phase

/-- The publication adds exclusions. -/
def Publication.Excludes (p : Publication) : Prop :=
  ∃ request, p.task = .exclude request

/-- `next` is what the task of the publication computed by this change, and what was published of it. -/
structure Publication.Enacts (p : Publication) (change : Change) (next : ClusterState) : Prop where
  task : p.task = change.task
  makes : change.Makes p.service.settings p.before next
  directory : p.state.directory = next.directory
  exclusions : p.state.coordination.exclusions = next.coordination.exclusions
  accepted : p.state.coordination.accepted = next.coordination.accepted
  committed : p.state.coordination.committed =
    if p.service.stalled then p.before.coordination.committed else next.coordination.accepted

theorem Publication.Sound.enacts {p : Publication} {change : Change} (h : p.Sound)
    (hk : ∀ r ∈ p.service.reconcilers, r.KeepsMembership) (ht : p.task = change.task) :
    ∃ next, p.Enacts change next := by
  obtain ⟨_, _, _, next, hr, hs⟩ := ClusterService.apply_ok h
  obtain ⟨hd, hc⟩ := Reconciler.foldl_keeps hk p.service.settings next
  have hs : p.state = p.service.succeed p.before next := hs
  refine ⟨next, ht, Change.makes_of_run (ht ▸ hr), ?_, ?_, ?_, ?_⟩
  · rw [hs]
    exact hd
  · simp only [hs, ClusterService.succeed, hc]
  · simp only [hs, ClusterService.succeed, hc]
  · simp only [hs, ClusterService.succeed, hc]

/-- What each change of a history keeps holds to its end, if it holds at first. -/
theorem Linked.keeps_enacted {P : ClusterState → Prop} {first last : ClusterState} {history : List Publication}
    (h : Linked first history last) (hn : ∀ p ∈ history, ∃ change next, p.Enacts change next) (hf : P first)
    (hk : ∀ p ∈ history, ∀ change next, p.Enacts change next → P p.before → P p.state) :
    P last ∧ ∀ p ∈ history, P p.state := by
  refine h.keeps hf ?_
  intro p hp hb
  obtain ⟨change, next, he⟩ := hn p hp
  exact hk p hp change next he hb

namespace System

/-- A new cluster of these nodes, before any client came. -/
def bootstrap (d : Directory) (settings : Settings) (reconcilers : List Reconciler) : System :=
  .start (.start (.bootstrap d) settings reconcilers)

/-- All tasks of clients that are queued or still to be submitted are changes of membership. -/
structure WithinMembership (sys : System) : Prop where
  queued : ∀ client task, (client, task) ∈ sys.queue → ∃ change : Change, task = change.task
  ready : ∀ (client : Nat) (call : Call), sys.clients[client]? = some (.ready call) → call.WithinMembership

variable {sys : System} {client : Nat} {phase : Phase}

theorem within_poll (h : sys.WithinMembership) (hc : sys.clients[client]? = some phase) :
    (sys.step (.poll client)).WithinMembership := by
  have ht := turn_proceed sys client phase
  rw [step_poll hc]
  refine ⟨?_, ?_⟩
  · intro other task hm
    rcases ht.queue with ⟨hq, _⟩ | ⟨purpose, task', hp, _, hq⟩
    · exact h.queued other task (by simpa only [hq] using hm)
    · rw [hq, List.mem_append, List.mem_singleton] at hm
      rcases hm with hm | hm
      · exact h.queued other task hm
      · cases hm
        exact hp.is_change (fun call he => h.ready client call (he ▸ hc))
  · intro other call ho
    rw [List.getElem?_set] at ho
    split at ho
    case isTrue =>
      split at ho
      case isTrue => exact absurd (Option.some.inj ho) (ht.begun call)
      case isFalse => cases ho
    case isFalse => exact h.ready other call ho

theorem within_apply (h : sys.WithinMembership) : (sys.step .apply).WithinMembership := by
  cases hq : sys.queue with
  | nil => rwa [step_apply_nil hq]
  | cons entry rest =>
      rw [step_apply hq]
      refine ⟨?_, ?_⟩
      · intro other task hm
        exact h.queued other task (hq ▸ List.mem_cons_of_mem _ hm)
      · intro other call ho
        rw [List.getElem?_modify] at ho
        cases hc : sys.clients[other]? with
        | none => simp [hc] at ho
        | some phase =>
            rw [hc, Option.map_eq_map, Option.map_some] at ho
            split at ho
            case isTrue => exact h.ready other call (Phase.ready_of_receive (Option.some.inj ho) ▸ hc)
            case isFalse => exact h.ready other call (hc.trans ho)

theorem within_step (h : sys.WithinMembership) (e : Event)
    (he : ∀ call ∈ e.call?, call.WithinMembership) : (sys.step e).WithinMembership := by
  cases e with
  | call call =>
      refine ⟨h.queued, ?_⟩
      intro client other ho
      rw [step, List.getElem?_append] at ho
      split at ho
      case isTrue => exact h.ready client other ho
      case isFalse =>
        cases List.mem_singleton.1 (List.mem_of_getElem? ho)
        exact he call rfl
  | poll client =>
      cases hc : sys.clients[client]? with
      | none => rwa [step_poll_none hc]
      | some phase => exact within_poll h hc
  | apply => exact within_apply h
  | tick => exact ⟨h.queued, h.ready⟩

theorem within_run (service : ClusterService) (events : List Event)
    (hc : ∀ call ∈ Event.calls events, call.WithinMembership) :
    ((start service).run events).WithinMembership := by
  revert hc
  apply run_induction (motive := fun events sys =>
    (∀ call ∈ Event.calls events, call.WithinMembership) → sys.WithinMembership)
  · intro _
    exact ⟨by simp [start], by simp [start]⟩
  · intro events e ih hc
    rw [Event.calls_concat] at hc
    refine within_step (ih fun call hm => hc call (List.mem_append_left _ hm)) e ?_
    intro call hm
    exact hc call (List.mem_append_right _ (Option.mem_toList.2 hm))

theorem history_changes (service : ClusterService) (events : List Event)
    (hc : ∀ call ∈ Event.calls events, call.WithinMembership) :
    ∀ p ∈ (start service).history events, ∃ change : Change, p.task = change.task := by
  induction events using List.reverseRecOn with
  | nil => simp [history]
  | append_singleton events e ih =>
      rw [Event.calls_concat] at hc
      have hc' : ∀ call ∈ Event.calls events, call.WithinMembership :=
        fun call hm => hc call (List.mem_append_left _ hm)
      intro p hp
      rw [history_concat, List.mem_append, Option.mem_toList] at hp
      rcases hp with hp | hp
      · exact ih hc' p hp
      · obtain ⟨_, ⟨rest, hq⟩, _⟩ := publication?_eq_some hp
        exact (within_run service events hc').queued p.client p.task (hq ▸ List.mem_cons_self)

section Bootstrap

variable {d : Directory} {settings : Settings} {reconcilers : List Reconciler} {events : List Event}

theorem bootstrap_enacts_task {p : Publication} {change : Change} (hr : ∀ r ∈ reconcilers, r.KeepsMembership)
    (hp : p ∈ (bootstrap d settings reconcilers).history events) (ht : p.task = change.task) :
    ∃ next, p.Enacts change next := by
  have hs := (history_linked _ events).sound p hp
  have hk : ∀ r ∈ p.service.reconcilers, r.KeepsMembership := by
    rw [history_reconcilers _ events p hp]
    exact hr
  exact hs.enacts hk ht

theorem bootstrap_enacts (hr : ∀ r ∈ reconcilers, r.KeepsMembership)
    (hc : ∀ call ∈ Event.calls events, call.WithinMembership) :
    ∀ p ∈ (bootstrap d settings reconcilers).history events, ∃ change next, p.Enacts change next := by
  intro p hp
  obtain ⟨change, ht⟩ := history_changes _ events hc p hp
  obtain ⟨next, hn⟩ := bootstrap_enacts_task hr hp ht
  exact ⟨change, next, hn⟩

/-- What a new cluster has and each change keeps holds of every state that a run publishes. -/
theorem bootstrap_keeps {P : ClusterState → Prop} (hr : ∀ r ∈ reconcilers, r.KeepsMembership)
    (hc : ∀ call ∈ Event.calls events, call.WithinMembership) (hb : P (.bootstrap d))
    (hk : ∀ p change next, Publication.Enacts p change next → P p.before → P p.state) :
    P ((bootstrap d settings reconcilers).run events).service.state ∧
      ∀ p ∈ (bootstrap d settings reconcilers).history events, P p.state :=
  (history_linked (bootstrap d settings reconcilers) events).keeps_enacted (bootstrap_enacts hr hc) hb
    (fun p _ => hk p)

end Bootstrap

end System

section Trio

/-- A node that may vote. -/
def Node.voter (id : NodeId) (name : String) : Node :=
  { bare id name with roles := .ofList [.master] }

def Directory.ofNodes (nodes : List Node) : Directory :=
  nodes.foldl insert empty

/-- Three nodes, all of which vote. -/
def Directory.trio : Directory :=
  .ofNodes [.voter "n1" "node1", .voter "n2" "node2", .voter "n3" "node3"]

/-- A new cluster of three voting nodes, with the allocation that comes with it. -/
def System.trio : System :=
  .bootstrap .trio .initial [AllocationService.builtin.reconcile]

theorem System.trio_keepsMembership :
    ∀ r ∈ [AllocationService.builtin.reconcile], Reconciler.KeepsMembership r := by
  intro r hr
  rw [List.mem_singleton.1 hr]
  exact AllocationService.reconcile_keepsMembership _

namespace Event

/-- Clients that come one by one, each once the one before is served. -/
def served (first : Nat) : List Call → List Event
  | [] => []
  | c :: rest => call c :: poll first :: apply :: poll first :: served (first + 1) rest

theorem calls_served (first : Nat) (cs : List Call) : calls (served first cs) = cs := by
  induction cs generalizing first with
  | nil => rfl
  | cons c rest ih => exact congrArg (c :: ·) (ih (first + 1))

end Event

def ExclusionRequest.ofIds (ids : List NodeId) : ExclusionRequest :=
  ⟨[], ids, [], defaultTimeout⟩

def ExclusionRequest.ofNames (names : List String) : ExclusionRequest :=
  ⟨[], [], names, defaultTimeout⟩

end Trio

end ClusterControl
