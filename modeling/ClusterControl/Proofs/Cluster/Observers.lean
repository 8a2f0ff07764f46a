import ClusterControl.Proofs.Cluster.Vigil

/-!
The observers of a system. In every run each of them keeps a vigil: between its looks the service publishes, is
changed by other clients and shut down, and time passes; each look is made of turns in a row.
-/

namespace ClusterControl

namespace System

variable {sys : System} {client : Nat} {phase : Phase} {o next : Observer}

theorem submit_clock (purpose : Purpose) (task : Task) :
    (sys.submit client purpose task).1.clock = sys.clock := by
  unfold submit
  split <;> rfl

theorem look_clock (watch : Watch) (o : Observer) : (sys.look client watch o).1.clock = sys.clock := by
  unfold look
  split
  case h_1 seen _ =>
    cases watch with
    | report | listener => rfl
    | coordination wait => cases wait <;> cases seen <;> first | rfl | exact submit_clock _ _
  case h_2 => rfl

theorem proceed_clock (sys : System) (client : Nat) (phase : Phase) :
    (sys.proceed client phase).1.clock = sys.clock := by
  cases phase with
  | submitted | finished => rfl
  | watching watch o => exact look_clock watch o
  | replied purpose reply =>
      cases reply with
      | error => rfl
      | ok receipt =>
          cases purpose with
          | update | clearing => rfl
          | exclusion => exact look_clock _ _
  | ready call =>
      cases call with
      | update task => exact submit_clock _ _
      | observe holds timeout => exact look_clock _ _
      | listen | stall | shutdown => rfl
      | set key value =>
          simp only [proceed, begin, set]
          split <;> rfl
      | clear request =>
          simp only [proceed, begin, beginClearing]
          split
          · rfl
          · split
            · exact look_clock _ _
            · exact submit_clock _ _
      | exclude request =>
          simp only [proceed, begin, beginExclusion]
          split
          · rfl
          · split
            · rfl
            · split
              · rfl
              · split
                · rfl
                · exact submit_clock _ _

theorem look_observer {watch : Watch} (h : (sys.look client watch o).2.observer? = some next) :
    o.look? sys.service sys.clock = none ∧ next = o.afterLook sys.service := by
  unfold look at h
  cases hl : o.look? sys.service sys.clock with
  | some seen =>
      rw [hl] at h
      rw [afterWatch_observer] at h
      cases h
  | none =>
      rw [hl] at h
      cases h
      exact ⟨rfl, rfl⟩

/-- An observer after a client's turn: it starts now and is yet to look, or it has looked in vain, and then it
started now or was there before. -/
inductive Observes (sys : System) (phase : Phase) : Observer → Prop
  | fresh (holds : ClusterState → Bool) (timeout : Option Nat) : Observes sys phase (sys.observer holds timeout)
  | begun (holds : ClusterState → Bool) (timeout : Option Nat)
      (hl : (sys.observer holds timeout).look? sys.service sys.clock = none) :
      Observes sys phase ((sys.observer holds timeout).afterLook sys.service)
  | looked (o : Observer) (ho : phase.observer? = some o) (hl : o.look? sys.service sys.clock = none) :
      Observes sys phase (o.afterLook sys.service)

theorem look_observes {watch : Watch} {holds : ClusterState → Bool} {timeout : Option Nat}
    (h : (sys.look client watch (sys.observer holds timeout)).2.observer? = some next) :
    sys.Observes phase next := by
  obtain ⟨hl, rfl⟩ := look_observer h
  exact .begun holds timeout hl

theorem proceed_observes (h : (sys.proceed client phase).2.observer? = some next) :
    sys.Observes phase next := by
  cases phase with
  | submitted | finished => cases h
  | watching watch o =>
      obtain ⟨hl, rfl⟩ := look_observer h
      exact .looked o rfl hl
  | replied purpose reply =>
      cases reply with
      | error => cases purpose <;> cases h
      | ok receipt =>
          cases purpose with
          | update | clearing => cases h
          | exclusion => exact look_observes h
  | ready call =>
      cases call with
      | observe holds timeout => exact look_observes h
      | listen holds timeout =>
          cases h
          exact .fresh holds timeout
      | clear request =>
          simp only [proceed, begin, beginClearing] at h
          split at h
          · cases h
          · split at h
            · exact look_observes h
            · rw [submit_observer] at h
              cases h
      | exclude request =>
          rw [proceed, begin, beginExclusion_observer] at h
          cases h
      | update task =>
          rw [proceed, begin, submit_observer] at h
          cases h
      | stall | shutdown => cases h
      | set key value =>
          simp only [proceed, begin, set] at h
          split at h <;> cases h

end System

namespace Vigil

variable {v : Vigil} {sys first : System} {client : Nat} {phase : Phase} {o next : Observer}
  {service : ClusterService} {events : List Event} {e : Event}

def Act.published? : Act → Option ClusterState
  | publish state => some state
  | _ => none

/-- The vigil that an observer of a system keeps, between two of its looks. -/
structure Shows (v : Vigil) (sys : System) (o : Observer) : Prop where
  service : v.service = sys.service
  clock : v.clock = sys.clock
  observer : v.observer = o
  outcome : v.outcome? = none

theorem Shows.poll (h : v.Shows sys o) (hc : sys.clients[client]? = some phase) :
    ∃ acts, (v.run acts).Shows (sys.step (.poll client)) o ∧ acts.filterMap Act.published? = [] := by
  have hs := (System.turn_proceed sys client phase).service
  have hclock : v.clock = (sys.proceed client phase).1.clock := by
    rw [System.proceed_clock]
    exact h.clock
  rw [System.step_poll hc]
  -- what a client does to the service in its turn is one act for the vigil, or none
  rw [← h.service] at hs
  generalize hn : (sys.proceed client phase).1.service = service at hs
  cases hs with
  | same => exact ⟨[], ⟨hn.symm, hclock, h.observer, h.outcome⟩, rfl⟩
  | stall stalled => exact ⟨[.stall stalled], ⟨hn.symm, hclock, h.observer, h.outcome⟩, rfl⟩
  | configure board => exact ⟨[.configure board], ⟨hn.symm, hclock, h.observer, h.outcome⟩, rfl⟩
  | shutdown => exact ⟨[.shutdown], ⟨hn.symm, hclock, h.observer, h.outcome⟩, rfl⟩

theorem Shows.apply (h : v.Shows sys o) : ∃ acts, (v.run acts).Shows (sys.step .apply) o ∧
    acts.filterMap Act.published? = (sys.publication? .apply).toList.map Publication.state := by
  cases hq : sys.queue with
  | nil =>
      refine ⟨[], by rwa [System.step_apply_nil hq], ?_⟩
      simp only [System.publication?, hq]
      rfl
  | cons entry rest =>
      rw [System.step_apply hq]
      cases hr : (sys.service.apply entry.2).2 with
      | error error =>
          refine ⟨[], ⟨?_, h.clock, h.observer, h.outcome⟩, ?_⟩
          · rw [ClusterService.apply_error hr]
            exact h.service
          · simp only [System.publication?, hq, hr]
            rfl
      | ok receipt =>
          obtain ⟨ho, hs, _⟩ := ClusterService.apply_ok hr
          have hv : v.run [.publish receipt.after] = { v with service := v.service.publish receipt.after } := by
            simp only [run_cons, run_nil, step, h.service, ho, if_true]
          refine ⟨[.publish receipt.after], ?_, ?_⟩
          · rw [hv]
            exact ⟨by rw [hs, h.service], h.clock, h.observer, h.outcome⟩
          · simp only [System.publication?, hq, hr]
            rfl

/-- Whoever acts in the system, the vigil goes on, and the observer's service publishes what the system's does. -/
theorem Shows.step (h : v.Shows sys o) (e : Event) : ∃ acts, (v.run acts).Shows (sys.step e) o ∧
    acts.filterMap Act.published? = (sys.publication? e).toList.map Publication.state := by
  cases e with
  | call => exact ⟨[], ⟨h.service, h.clock, h.observer, h.outcome⟩, rfl⟩
  | tick milliseconds =>
      exact ⟨[.tick milliseconds],
        ⟨h.service, congrArg (· + milliseconds) h.clock, h.observer, h.outcome⟩, rfl⟩
  | poll client =>
      cases hc : sys.clients[client]? with
      | none => exact ⟨[], by rwa [System.step_poll_none hc], rfl⟩
      | some phase => exact h.poll hc
  | apply => exact h.apply

/-- A look in vain is a few turns of the vigil. -/
theorem Shows.look (h : v.Shows sys o) (hw : v.Wakeful) (hl : o.look? sys.service sys.clock = none) :
    v.glance.Shows sys (o.afterLook sys.service) := by
  have hd : v.due? = none := by
    rw [← hw.look?_eq, h.observer, h.service, h.clock, hl]
  rw [hw.glance_in_vain h.outcome hd]
  refine ⟨h.service, h.clock, ?_, rfl⟩
  rw [← h.observer, ← h.service]
  rfl

/-- The observer keeps a vigil that started when these events were still to come, and sees the states that they
published. -/
def Kept (first : System) (events : List Event) (o : Observer) : Prop :=
  ∃ timeout acts, ((start first.service first.clock o.holds timeout).run acts).Shows (first.run events) o ∧
    acts.filterMap Act.published? = (first.history events).map Publication.state

theorem kept_start (sys : System) (holds : ClusterState → Bool) (timeout : Option Nat) :
    Kept sys [] (sys.observer holds timeout) :=
  ⟨timeout, [], ⟨rfl, rfl, rfl, rfl⟩, rfl⟩

theorem Kept.step (h : Kept first events o) (e : Event) : Kept first (events ++ [e]) o := by
  obtain ⟨timeout, acts, hs, hp⟩ := h
  obtain ⟨more, hs, hm⟩ := hs.step e
  refine ⟨timeout, acts ++ more, ?_, ?_⟩
  · rwa [run_append, System.run_concat]
  · rw [List.filterMap_append, System.history_concat, List.map_append, hp, hm]

theorem Kept.look (h : Kept first events o)
    (hl : o.look? (first.run events).service (first.run events).clock = none) :
    Kept first events (o.afterLook (first.run events).service) := by
  obtain ⟨timeout, acts, hs, hp⟩ := h
  have hn := hs.look ((wakeful_start _ _ o.holds timeout).run acts) hl
  rw [glance, ← run_append] at hn
  refine ⟨timeout, acts ++ List.replicate 3 Act.turn, hn, ?_⟩
  rw [List.filterMap_append, hp]
  exact List.append_nil _

/-- Some events ago the observer of this phase started a vigil, if there is one. -/
def SinceStart (service : ClusterService) (events : List Event) (phase : Phase) : Prop :=
  ∀ o, phase.observer? = some o →
    ∃ older newer, events = older ++ newer ∧ Kept ((System.start service).run older) newer o

theorem SinceStart.step {events : List Event} (h : SinceStart service events phase) (e : Event) :
    SinceStart service (events ++ [e]) phase := by
  intro o ho
  obtain ⟨older, newer, rfl, hk⟩ := h o ho
  exact ⟨older, newer ++ [e], List.append_assoc _ _ _, hk.step e⟩

theorem SinceStart.turn (h : SinceStart service events phase)
    (ho : ((System.start service).run events).Observes phase next) :
    ∃ older newer, events = older ++ newer ∧ Kept ((System.start service).run older) newer next := by
  cases ho with
  | fresh holds timeout => exact ⟨events, [], (List.append_nil _).symm, kept_start _ holds timeout⟩
  | begun holds timeout hl =>
      exact ⟨events, [], (List.append_nil _).symm, (kept_start _ holds timeout).look hl⟩
  | looked o ho hl =>
      obtain ⟨older, newer, rfl, hk⟩ := h o ho
      rw [System.run_append] at hl ⊢
      exact ⟨older, newer, rfl, hk.look hl⟩

/-- Every observer of a system, whatever it is to find out and for whom, keeps a vigil since it started. -/
theorem sinceStart_run (service : ClusterService) (events : List Event)
    (hp : ((System.start service).run events).clients[client]? = some phase) :
    SinceStart service events phase := by
  have hl : client < (Event.calls events).length := by
    rw [← System.length_clients service events]
    exact (List.getElem?_eq_some_iff.1 hp).1
  have hmoves : ∀ events e phase after, ((System.start service).run events).clients[client]? = some phase →
      SinceStart service events phase →
      System.Moves ((System.start service).run events) client phase e after →
      SinceStart service (events ++ [e]) after := by
    intro events e phase after hc hk hm
    cases hm with
    | waits => exact hk.step e
    | reply => exact nofun -- a client with a reply does not observe
    | turn =>
        intro o ho
        obtain ⟨older, newer, rfl, hkept⟩ := hk.turn (System.proceed_observes ho)
        exact ⟨older, newer ++ [.poll client], List.append_assoc _ _ _, hkept.step _⟩
  obtain ⟨other, hother, hk⟩ := System.client_induction (motive := SinceStart service)
    service client _ (fun _ _ => nofun) hmoves events (List.getElem?_eq_getElem hl)
  cases hp.symm.trans hother
  exact hk

/-- An observer reports one outcome, in a turn of its own, and it is true of the newest state at that moment: the
state matches if that is what is reported, and otherwise it does not, whether the time is over or the service
closed. The first look reports a state that matches, and once something is due, and nothing is published any
more, three turns report it whatever happens between them. Turns in a row are one look, and the observers of a
system are such observers. -/
theorem reports_truly (service : ClusterService) (clock : Nat) (holds : ClusterState → Bool)
    (timeout : Option Nat) (acts : List Act) :
    let v := (start service clock holds timeout).run acts
    v.observer.holds = holds ∧ v.observer.deadline = timeout.map (clock + ·) ∧
    (∀ act outcome, v.outcome? = none → (v.step act).outcome? = some outcome → act = .turn ∧ v.Tells outcome) ∧
    (∀ outcome more, v.outcome? = some outcome → (v.run more).outcome? = some outcome) ∧
    (v.stance = .looking → holds v.service.state = true →
      v.turn.outcome? = some (.matched v.service.state)) ∧
    (∀ more, v.due?.isSome = true → v.Quiet more → 3 ≤ more.countP Act.isTurn →
      (v.run more).outcome?.isSome = true) ∧
    (v.outcome? = none → v.glance.outcome? = v.due? ∧ v.due? = v.observer.look? v.service v.clock) ∧
    ∀ events (client : Nat) (phase : Phase), ((System.start service).run events).clients[client]? = some phase →
      SinceStart service events phase := by
  intro v
  have hw : v.Wakeful := (wakeful_start service clock holds timeout).run acts
  obtain ⟨hholds, hdeadline⟩ := (start service clock holds timeout).run_keeps acts
  refine ⟨hholds, hdeadline, ?_, fun _ more h => outcome?_run h more, ?_, ?_, ?_, ?_⟩
  · intro act outcome hn hr
    obtain ⟨ha, hd⟩ := hw.due_of_reported hn hr
    exact ⟨ha, tells_of_due? hd⟩
  · intro hs hh
    rw [turn_holds hs (hholds ▸ hh)]
    rfl
  · intro more hd hq ht
    exact hw.reports hd hq (Nat.le_trans v.turnsLeft_le ht)
  · intro hn
    exact ⟨hw.glance_outcome hn, hw.look?_eq.symm⟩
  · intro events client phase hp
    exact sinceStart_run service events hp

/-- An observer without any time has looked in vain; then the state is published that it waits for, and the
service is shut down. -/
def belated : Vigil :=
  (start (.start .initial .initial []) 0 (fun s => s.version = 1) (some 0)).run
    [.turn, .publish { ClusterState.initial with version := 1 }, .shutdown]

/-- It reports that state, neither the end of its time nor that of the service, also if it is interrupted. -/
theorem belated_matches :
    belated.glance.outcome? = some (.matched { ClusterState.initial with version := 1 }) ∧
      (belated.run [.turn, .tick 1, .turn, .turn]).outcome?.isSome = true := by
  obtain ⟨_, _, _, _, _, hinterrupted, hglance, _⟩ := reports_truly (.start .initial .initial []) 0
    (fun s => s.version = 1) (some 0) [.turn, .publish { ClusterState.initial with version := 1 }, .shutdown]
  exact ⟨(hglance rfl).1, hinterrupted _ rfl (.inl rfl) (Nat.le_refl 3)⟩

end Vigil

end ClusterControl
