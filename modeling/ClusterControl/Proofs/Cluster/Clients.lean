import ClusterControl.Proofs.Cluster.History
import ClusterControl.Proofs.Cluster.Membership

/-!
The clients of a run. A queued task belongs to the one client that waits for it, so that each client
passes from phase to phase by its own turns and by the reply to its own task only.
-/

namespace ClusterControl

namespace Event

def call? : Event → Option Call
  | call c => some c
  | _ => none

/-- The calls of a run; the clients are numbered as these are. -/
def calls (events : List Event) : List Call :=
  events.filterMap call?

theorem calls_append (events more : List Event) : calls (events ++ more) = calls events ++ calls more :=
  List.filterMap_append

theorem calls_concat (events : List Event) (e : Event) :
    calls (events ++ [e]) = calls events ++ e.call?.toList := by
  rw [calls_append]
  cases h : e.call? <;> simp [calls, h]

end Event

namespace System

/-- A queued task belongs to one client, which waits for it. -/
structure Consistent (sys : System) : Prop where
  waiting : ∀ client task, (client, task) ∈ sys.queue →
    ∃ purpose, sys.clients[client]? = some (.submitted purpose) ∧ purpose.Asks task
  once : (sys.queue.map Prod.fst).Nodup

variable {sys : System} {client : Nat} {phase : Phase}

theorem consistent_poll (hs : sys.Consistent) (hc : sys.clients[client]? = some phase) :
    (sys.step (.poll client)).Consistent := by
  have ht := turn_proceed sys client phase
  have hl : client < sys.clients.length := (List.getElem?_eq_some_iff.1 hc).1
  rw [step_poll hc]
  rcases ht.queue with ⟨hq, hn⟩ | ⟨purpose, task, hp, hn, hq⟩
  · refine ⟨?_, by simpa only [hq] using hs.once⟩
    intro other task hm
    obtain ⟨purpose, ho, ha⟩ := hs.waiting other task (by simpa only [hq] using hm)
    by_cases he : client = other
    · subst he
      rw [hc] at ho
      cases Option.some.inj ho
      exact ⟨purpose, by simp [hl, proceed], ha⟩
    · exact ⟨purpose, by simpa only [List.getElem?_set_ne he] using ho, ha⟩
  · have hnew : client ∉ sys.queue.map Prod.fst := by
      intro hm
      obtain ⟨⟨_, other⟩, hm', rfl⟩ := List.mem_map.1 hm
      obtain ⟨purpose', ho, _⟩ := hs.waiting _ other hm'
      exact hp.not_submitted purpose' (Option.some.inj (hc.symm.trans ho))
    refine ⟨?_, ?_⟩
    · intro other task' hm
      rw [hq, List.mem_append, List.mem_singleton] at hm
      rcases hm with hm | hm
      · obtain ⟨purpose', ho, ha⟩ := hs.waiting other task' hm
        have he : client ≠ other := by
          rintro rfl
          exact hnew (List.mem_map_of_mem hm)
        exact ⟨purpose', by simpa only [List.getElem?_set_ne he] using ho, ha⟩
      · cases hm
        exact ⟨purpose, by simp [hl, hn], hp.asks⟩
    · rw [hq, List.map_append, List.nodup_append]
      refine ⟨hs.once, by simp, ?_⟩
      intro a ha b hb he
      simp only [List.map_cons, List.map_nil, List.mem_singleton] at hb
      exact hnew (hb ▸ he ▸ ha)

theorem consistent_apply (hs : sys.Consistent) : (sys.step .apply).Consistent := by
  cases hq : sys.queue with
  | nil => rwa [step_apply_nil hq]
  | cons entry rest =>
      obtain ⟨first, task⟩ := entry
      have hn := hs.once
      rw [hq, List.map_cons, List.nodup_cons] at hn
      rw [step_apply hq]
      refine ⟨?_, hn.2⟩
      intro other task' (hm : (other, task') ∈ rest)
      obtain ⟨purpose, ho, ha⟩ := hs.waiting other task' (hq ▸ List.mem_cons_of_mem _ hm)
      have he : first ≠ other := by
        rintro rfl
        exact hn.1 (List.mem_map.2 ⟨_, hm, rfl⟩)
      exact ⟨purpose, by simpa only [List.getElem?_modify_ne _ _ he] using ho, ha⟩

theorem consistent_step (hs : sys.Consistent) (e : Event) : (sys.step e).Consistent := by
  cases e with
  | call call =>
      refine ⟨?_, hs.once⟩
      intro client task hm
      obtain ⟨purpose, ho, ha⟩ := hs.waiting client task hm
      refine ⟨purpose, ?_, ha⟩
      rw [step, List.getElem?_append_left (List.getElem?_eq_some_iff.1 ho).1]
      exact ho
  | poll client =>
      cases hc : sys.clients[client]? with
      | none => rwa [step_poll_none hc]
      | some phase => exact consistent_poll hs hc
  | apply => exact consistent_apply hs
  | tick => exact ⟨hs.waiting, hs.once⟩

theorem consistent_run (service : ClusterService) (events : List Event) :
    ((start service).run events).Consistent :=
  run_induction (motive := fun _ sys => sys.Consistent) (start service) ⟨by simp [start], List.nodup_nil⟩
    (fun _ e h => consistent_step h e) events

/-- What an event does to a client: nothing, its turn, or the reply to its task. -/
inductive Moves (sys : System) (client : Nat) (phase : Phase) : Event → Phase → Prop
  | waits {e : Event} (h : ∀ p, sys.publication? e = some p → p.client ≠ client) :
      Moves sys client phase e phase
  | turn : Moves sys client phase (.poll client) (sys.proceed client phase).2
  | reply {purpose : Purpose} {task : Task} {rest : List (Nat × Task)} (hq : sys.queue = (client, task) :: rest)
      (hp : phase = .submitted purpose) (ha : purpose.Asks task) :
      Moves sys client phase .apply (.replied purpose (sys.service.apply task).2)

theorem step_moves (hs : sys.Consistent) (hc : sys.clients[client]? = some phase) (e : Event) :
    ∃ next, (sys.step e).clients[client]? = some next ∧ sys.Moves client phase e next := by
  have hl : client < sys.clients.length := (List.getElem?_eq_some_iff.1 hc).1
  cases e with
  | call call =>
      refine ⟨phase, ?_, .waits (by simp [publication?])⟩
      rwa [step, List.getElem?_append_left hl]
  | tick => exact ⟨phase, hc, .waits (by simp [publication?])⟩
  | poll other =>
      by_cases he : other = client
      · subst he
        exact ⟨_, by simp [step_poll hc, hl], .turn⟩
      · refine ⟨phase, ?_, .waits (by simp [publication?])⟩
        cases ho : sys.clients[other]? with
        | none => rwa [step_poll_none ho]
        | some _ => simpa only [step_poll ho, List.getElem?_set_ne he] using hc
  | apply =>
      cases hq : sys.queue with
      | nil =>
          refine ⟨phase, by rwa [step_apply_nil hq], .waits ?_⟩
          simp [publication?, hq]
      | cons entry rest =>
          obtain ⟨first, task⟩ := entry
          by_cases he : first = client
          · subst he
            obtain ⟨purpose, ho, ha⟩ := hs.waiting first task (hq ▸ List.mem_cons_self)
            have hp : phase = .submitted purpose := Option.some.inj (hc.symm.trans ho)
            exact ⟨_, by simp [step_apply hq, hc, hp, Phase.receive], .reply hq hp ha⟩
          · refine ⟨phase, by simpa only [step_apply hq, List.getElem?_modify_ne _ _ he] using hc, .waits ?_⟩
            intro p hp
            obtain ⟨_, ⟨_, hq'⟩, _⟩ := publication?_eq_some hp
            rw [hq] at hq'
            cases hq'
            exact he

theorem length_clients (service : ClusterService) (events : List Event) :
    ((start service).run events).clients.length = (Event.calls events).length := by
  apply run_induction (motive := fun events sys => sys.clients.length = (Event.calls events).length)
  · rfl
  · intro events e h
    rw [Event.calls_concat]
    cases e with
    | call call => simp [step, Event.call?, h]
    | tick => simpa [step, Event.call?] using h
    | poll client =>
        cases hc : ((start service).run events).clients[client]? with
        | none => simpa [step_poll_none hc, Event.call?] using h
        | some phase => simpa [step_poll hc, Event.call?] using h
    | apply =>
        cases hq : ((start service).run events).queue with
        | nil => simpa [step_apply_nil hq, Event.call?] using h
        | cons entry rest => simpa [step_apply hq, Event.call?] using h

/-- The publications of a run that come of a client's task. -/
def contribution (sys : System) (client : Nat) (events : List Event) : List Publication :=
  (sys.history events).filter fun p => p.client = client

theorem contribution_concat (sys : System) (client : Nat) (events : List Event) (e : Event) :
    sys.contribution client (events ++ [e]) = sys.contribution client events ++
      ((sys.run events).publication? e).toList.filter fun p => p.client = client := by
  rw [contribution, history_concat, List.filter_append, contribution]

theorem contribution_waits {events : List Event} {e : Event}
    (h : ∀ p, (sys.run events).publication? e = some p → p.client ≠ client) :
    sys.contribution client (events ++ [e]) = sys.contribution client events := by
  rw [contribution_concat]
  cases hp : (sys.run events).publication? e with
  | none => simp
  | some p => simp [h p hp]

theorem contribution_applied {events : List Event} {task : Task} {rest : List (Nat × Task)} {receipt : Receipt}
    (hq : (sys.run events).queue = (client, task) :: rest)
    (hr : ((sys.run events).service.apply task).2 = .ok receipt) :
    sys.contribution client (events ++ [.apply]) =
      sys.contribution client events ++ [⟨client, task, (sys.run events).service, receipt.after⟩] := by
  have hp : (sys.run events).publication? .apply =
      some ⟨client, task, (sys.run events).service, receipt.after⟩ := by
    simp only [publication?, hq, hr]
  rw [contribution_concat, hp]
  simp

theorem contribution_refused {events : List Event} {task : Task} {rest : List (Nat × Task)} {error : UpdateError}
    (hq : (sys.run events).queue = (client, task) :: rest)
    (hr : ((sys.run events).service.apply task).2 = .error error) :
    sys.contribution client (events ++ [.apply]) = sys.contribution client events :=
  contribution_waits (by simp only [publication?, hq, hr, reduceCtorEq, false_implies, implies_true])

theorem client_lt (service : ClusterService) (events : List Event) :
    ∀ p ∈ (start service).history events, p.client < (Event.calls events).length := by
  induction events using List.reverseRecOn with
  | nil => simp [history]
  | append_singleton events e ih =>
      intro p hp
      rw [history_concat, List.mem_append, Option.mem_toList] at hp
      have hlt : p.client < (Event.calls events).length := by
        rcases hp with hp | hp
        · exact ih p hp
        · obtain ⟨_, ⟨rest, hq⟩, _⟩ := publication?_eq_some hp
          obtain ⟨purpose, hc, _⟩ :=
            (consistent_run service events).waiting p.client p.task (hq ▸ List.mem_cons_self)
          rw [← length_clients service events]
          exact (List.getElem?_eq_some_iff.1 hc).1
      rw [Event.calls_concat, List.length_append]
      omega

/-- To follow a client through a run is to follow it from its call through all its moves. -/
theorem client_induction {motive : List Event → Phase → Prop} (service : ClusterService) (client : Nat)
    (call : Call)
    (ready : ∀ events, (start service).contribution client (events ++ [.call call]) = [] →
      motive (events ++ [.call call]) (.ready call))
    (moves : ∀ events e phase next, ((start service).run events).clients[client]? = some phase →
      motive events phase → Moves ((start service).run events) client phase e next →
      motive (events ++ [e]) next)
    (events : List Event) (hc : (Event.calls events)[client]? = some call) :
    ∃ phase, ((start service).run events).clients[client]? = some phase ∧ motive events phase := by
  induction events using List.reverseRecOn with
  | nil => simp [Event.calls] at hc
  | append_singleton events e ih =>
      rw [run_concat]
      rw [Event.calls_concat] at hc
      by_cases hl : client < (Event.calls events).length
      · rw [List.getElem?_append_left hl] at hc
        obtain ⟨phase, hp, hm⟩ := ih hc
        obtain ⟨next, hn, hmove⟩ := step_moves (consistent_run service events) hp e
        exact ⟨next, hn, moves events e phase next hp hm hmove⟩
      · have hlen := length_clients service events
        cases e with
        | poll | apply | tick =>
            simp [Event.call?, hl] at hc
        | call c =>
            have hlt := (List.getElem?_eq_some_iff.1 hc).1
            simp only [Event.call?, Option.toList_some, List.length_append, List.length_singleton] at hlt
            have he : client = (Event.calls events).length := by omega
            have hcall : c = call := by simpa [Event.call?, he] using hc
            subst hcall
            refine ⟨.ready c, by simp [step, he, ← hlen], ready events ?_⟩
            rw [contribution_waits (by simp [publication?]), contribution, List.filter_eq_nil_iff]
            intro p hp hpc
            have := client_lt service events p hp
            simp only [decide_eq_true_eq] at hpc
            omega

end System

end ClusterControl
