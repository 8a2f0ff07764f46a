import ClusterControl.Proofs.Cluster.Attention

/-!
An observer at work, one turn at a time. In one turn it looks at the newest state; in another, having looked in
vain, it finds out whether there is a newer one, whether the service has closed and whether its time is over.
Between two turns states are published, time passes and the service is shut down. What the observer reports is
what is due at that moment, and nothing escapes it. Turns in a row make one look.
-/

namespace ClusterControl

/-- Where an observer stands: about to look, waiting for another state than the one it looked at last, or done. -/
inductive Stance
  | looking
  | waiting (last : ClusterState)
  | reported (outcome : Observed)

/-- An observer at work. -/
structure Vigil where
  service : ClusterService
  clock : Nat
  observer : Observer
  stance : Stance

namespace Vigil

inductive Act
  | turn
  | publish (state : ClusterState)
  | stall (stalled : Bool)
  | configure (board : SettingsBoard)
  | shutdown
  | tick (milliseconds : Nat)

/-- The time of an observer starts with its work. A timeout may be of any length, since instants have no upper
bound here: that a clock runs out of them is left out. -/
def start (service : ClusterService) (clock : Nat) (holds : ClusterState → Bool) (timeout : Option Nat) : Vigil :=
  ⟨service, clock, .start holds (timeout.map (clock + ·)), .looking⟩

/-- A newer state counts first, then the end of the service, then the time. -/
def turn (v : Vigil) : Vigil :=
  match v.stance with
  | .looking =>
    if v.observer.holds v.service.state then { v with stance := .reported (.matched v.service.state) }
    else { v with observer := v.observer.afterLook v.service, stance := .waiting v.service.state }
  | .waiting last =>
    if v.observer.isBehind v.service then { v with stance := .looking }
    else if !v.service.isOpen then { v with stance := .reported .closed }
    else if v.observer.isLate v.clock then { v with stance := .reported (.timedOut last) }
    else v
  | .reported _ => v

/-- A service that was shut down publishes nothing. -/
def step (v : Vigil) : Act → Vigil
  | .turn => v.turn
  | .publish state => if v.service.isOpen then { v with service := v.service.publish state } else v
  | .stall stalled => { v with service := v.service.stall stalled }
  | .configure board => { v with service.board := board }
  | .shutdown => { v with service := v.service.shutdown }
  | .tick milliseconds => { v with clock := v.clock + milliseconds }

def run (v : Vigil) (acts : List Act) : Vigil :=
  acts.foldl step v

def outcome? (v : Vigil) : Option Observed :=
  match v.stance with
  | .reported outcome => some outcome
  | .looking | .waiting _ => none

/-- What there is to report at this moment, if anything. -/
def due? (v : Vigil) : Option Observed :=
  if v.observer.holds v.service.state then some (.matched v.service.state)
  else if !v.service.isOpen then some .closed
  else if v.observer.isLate v.clock then some (.timedOut v.service.state)
  else none

/-- The observer has looked at the newest state, and waits for another. -/
def caughtUp (v : Vigil) : Vigil :=
  { v with observer := v.observer.afterLook v.service, stance := .waiting v.service.state }

variable {v : Vigil} {act : Act} {acts : List Act} {outcome : Observed}

theorem run_append (v : Vigil) (acts more : List Act) : v.run (acts ++ more) = (v.run acts).run more :=
  List.foldl_append

theorem run_nil (v : Vigil) : v.run [] = v := rfl

theorem run_cons (v : Vigil) (act : Act) (acts : List Act) : v.run (act :: acts) = (v.step act).run acts := rfl

theorem step_turn (v : Vigil) : v.step .turn = v.turn := rfl

theorem turn_holds (hs : v.stance = .looking) (h : v.observer.holds v.service.state = true) :
    v.turn = { v with stance := .reported (.matched v.service.state) } := by
  simp only [turn, hs, h, if_true]

theorem turn_in_vain (hs : v.stance = .looking) (h : v.observer.holds v.service.state = false) :
    v.turn = v.caughtUp := by
  simp only [turn, hs, h, Bool.false_eq_true, if_false, caughtUp]

theorem turn_behind {last : ClusterState} (hs : v.stance = .waiting last)
    (h : v.observer.isBehind v.service = true) : v.turn = { v with stance := .looking } := by
  simp only [turn, hs, h, if_true]

theorem turn_reported (hs : v.stance = .reported outcome) : v.turn = v := by
  simp only [turn, hs]

/-- The observer has not missed a state, and the state that it looked at last is the newest unless it is behind. -/
structure Wakeful (v : Vigil) : Prop where
  attends : v.observer.Attends v.service
  last : ∀ last, v.stance = .waiting last → v.observer.isBehind v.service = false → last = v.service.state

theorem wakeful_start (service : ClusterService) (clock : Nat) (holds : ClusterState → Bool)
    (timeout : Option Nat) : (start service clock holds timeout).Wakeful :=
  ⟨Observer.attends_start _ _, nofun⟩

theorem isBehind_publish {o : Observer} {service : ClusterService} (h : o.Attends service) (s : ClusterState) :
    o.isBehind (service.publish s) = true := by
  rw [Observer.isBehind, decide_eq_true_eq]
  intro hn
  have := (h _ hn).1
  simp only [ClusterService.publish] at this
  omega

theorem Wakeful.not_holds (h : v.Wakeful) (hb : v.observer.isBehind v.service = false) :
    v.observer.holds v.service.state = false := by
  have hseen : v.observer.seen = some v.service.published := by simpa [Observer.isBehind] using hb
  exact (h.attends _ hseen).2 rfl

theorem Wakeful.caughtUp (h : v.observer.holds v.service.state = false) : v.caughtUp.Wakeful := by
  refine ⟨?_, ?_⟩
  · rintro n ⟨⟩
    exact ⟨Nat.le_refl _, fun _ => h⟩
  · rintro _ ⟨⟩ _
    rfl

theorem isBehind_caughtUp (v : Vigil) : v.caughtUp.observer.isBehind v.caughtUp.service = false := by
  simp [Vigil.caughtUp, Observer.isBehind, Observer.afterLook]

theorem Wakeful.turn (h : v.Wakeful) : v.turn.Wakeful := by
  cases hs : v.stance with
  | looking =>
      cases hh : v.observer.holds v.service.state with
      | true =>
          rw [turn_holds hs hh]
          exact ⟨h.attends, nofun⟩
      | false =>
          rw [turn_in_vain hs hh]
          exact .caughtUp hh
  | waiting last =>
      simp only [Vigil.turn, hs]
      split
      · exact ⟨h.attends, nofun⟩
      · split
        · exact ⟨h.attends, nofun⟩
        · split
          · exact ⟨h.attends, nofun⟩
          · exact h
  | reported outcome => rwa [turn_reported hs]

theorem Wakeful.step (h : v.Wakeful) (act : Act) : (v.step act).Wakeful := by
  cases act with
  | turn => exact h.turn
  | publish state =>
      simp only [Vigil.step]
      split
      case isTrue =>
        refine ⟨h.attends.publish state, ?_⟩
        intro last _ hb
        rw [isBehind_publish h.attends] at hb
        cases hb
      case isFalse => exact h
  | stall | configure | shutdown => exact ⟨h.attends.of_eq rfl rfl, h.last⟩
  | tick => exact ⟨h.attends, h.last⟩

theorem Wakeful.run (h : v.Wakeful) (acts : List Act) : (v.run acts).Wakeful := by
  induction acts generalizing v with
  | nil => exact h
  | cons act acts ih => exact ih (h.step act)

/-- One look of an observer that missed nothing reports what is due. -/
theorem Wakeful.look?_eq (h : v.Wakeful) : v.observer.look? v.service v.clock = v.due? := by
  cases hb : v.observer.isBehind v.service with
  | true => simp [Observer.look?, due?, hb]
  | false => simp [Observer.look?, due?, hb, h.not_holds hb]

/-- An observer that looked at the newest state in vain reports what is due, or goes on waiting. -/
theorem Wakeful.turn_caught_up (h : v.Wakeful) {last : ClusterState} (hs : v.stance = .waiting last)
    (hb : v.observer.isBehind v.service = false) :
    v.turn.outcome? = v.due? ∧ (v.due? = none → v.turn = v) := by
  obtain rfl := h.last last hs hb
  simp only [Vigil.turn, hs, hb, due?, h.not_holds hb, Bool.false_eq_true, if_false]
  split
  · exact ⟨rfl, nofun⟩
  · split
    · exact ⟨rfl, nofun⟩
    · exact ⟨by simp only [outcome?, hs], fun _ => rfl⟩

/-- Whatever happens besides, an outcome comes by a turn of the observer, and it is the one that is due. -/
theorem Wakeful.due_of_reported (h : v.Wakeful) (hn : v.outcome? = none)
    (hr : (v.step act).outcome? = some outcome) : act = .turn ∧ v.due? = some outcome := by
  cases act with
  | publish state =>
      simp only [Vigil.step] at hr
      split at hr <;> simp_all [outcome?]
  | stall | configure | shutdown | tick => simp_all [Vigil.step, outcome?]
  | turn =>
      refine ⟨rfl, ?_⟩
      rw [Vigil.step] at hr
      cases hs : v.stance with
      | reported outcome => simp [outcome?, hs] at hn
      | looking =>
          cases hh : v.observer.holds v.service.state with
          | true =>
              rw [turn_holds hs hh] at hr
              simpa [due?, hh, outcome?] using hr
          | false => simp [turn_in_vain hs hh, Vigil.caughtUp, outcome?] at hr
      | waiting last =>
          cases hb : v.observer.isBehind v.service with
          | true => simp [turn_behind hs hb, outcome?] at hr
          | false => rw [← (h.turn_caught_up hs hb).1, hr]

theorem outcome?_step (h : v.outcome? = some outcome) (act : Act) : (v.step act).outcome? = some outcome := by
  cases act with
  | turn =>
      cases hs : v.stance with
      | reported => rwa [step, turn_reported hs]
      | looking | waiting => simp [outcome?, hs] at h
  | publish state =>
      rw [step]
      split <;> exact h
  | stall | configure | shutdown | tick => exact h

theorem outcome?_run (h : v.outcome? = some outcome) (acts : List Act) : (v.run acts).outcome? = some outcome := by
  induction acts generalizing v with
  | nil => exact h
  | cons act acts ih => exact ih (outcome?_step h act)

/-- How many turns the observer needs at most to find out what is due. -/
def turnsLeft (v : Vigil) : Nat :=
  match v.stance with
  | .looking => 2
  | .waiting _ => if v.observer.isBehind v.service then 3 else 1
  | .reported _ => 0

def Act.isTurn : Act → Bool
  | turn => true
  | _ => false

theorem turn_keeps (v : Vigil) : v.turn.service = v.service ∧ v.turn.clock = v.clock ∧
    v.turn.observer.holds = v.observer.holds ∧ v.turn.observer.deadline = v.observer.deadline := by
  unfold turn
  split
  · split <;> exact ⟨rfl, rfl, rfl, rfl⟩
  · split
    · exact ⟨rfl, rfl, rfl, rfl⟩
    · split
      · exact ⟨rfl, rfl, rfl, rfl⟩
      · split <;> exact ⟨rfl, rfl, rfl, rfl⟩
  · exact ⟨rfl, rfl, rfl, rfl⟩

theorem due?_turn (v : Vigil) : v.turn.due? = v.due? := by
  obtain ⟨hs, hc, hh, hd⟩ := v.turn_keeps
  unfold due? Observer.isLate
  rw [hs, hc, hh, hd]

/-- Each turn brings an observer nearer to what is due. -/
theorem Wakeful.turn_due (h : v.Wakeful) (hn : v.outcome? = none) (hd : v.due? = some outcome) :
    v.turn.outcome? = some outcome ∨ v.turn.outcome? = none ∧ v.turn.turnsLeft < v.turnsLeft := by
  cases hs : v.stance with
  | reported outcome => simp [outcome?, hs] at hn
  | looking =>
      cases hh : v.observer.holds v.service.state with
      | true =>
          left
          rw [turn_holds hs hh, ← hd]
          simp [outcome?, due?, hh]
      | false =>
          right
          rw [turn_in_vain hs hh]
          refine ⟨rfl, ?_⟩
          simp [turnsLeft, hs, isBehind_caughtUp, show v.caughtUp.stance = .waiting v.service.state from rfl]
  | waiting last =>
      cases hb : v.observer.isBehind v.service with
      | true =>
          right
          rw [turn_behind hs hb]
          simp [outcome?, turnsLeft, hs, hb]
      | false =>
          left
          rw [(h.turn_caught_up hs hb).1, hd]

/-- Nothing is published. -/
def Quiet (v : Vigil) (acts : List Act) : Prop :=
  v.service.isOpen = false ∨ ∀ state, Act.publish state ∉ acts

theorem Quiet.tail (h : v.Quiet (act :: acts)) : (v.step act).Quiet acts := by
  rcases h with hc | hp
  · left
    cases act with
    | turn => rw [step, v.turn_keeps.1, hc]
    | publish state => simp [step, hc]
    | shutdown => rfl
    | stall | configure | tick => exact hc
  · exact .inr fun state hm => hp state (List.mem_cons_of_mem _ hm)

theorem due?_isSome : v.due?.isSome = true ↔ v.observer.holds v.service.state = true ∨
    v.service.isOpen = false ∨ v.observer.isLate v.clock = true := by
  unfold due?
  split
  · simp_all
  · split
    · simp_all
    · split <;> simp_all

theorem isLate_mono {o : Observer} {now later : Nat} (h : o.isLate now = true) (hl : now ≤ later) :
    o.isLate later = true := by
  simp only [Observer.isLate, Option.any_eq_true_iff_get, decide_eq_true_eq] at h ⊢
  obtain ⟨hd, h⟩ := h
  exact ⟨hd, Nat.le_trans h hl⟩

/-- What is due stays due while nothing is published, though the service may close before the time is over. -/
theorem Quiet.step_due (h : v.Quiet (act :: acts)) (hd : v.due?.isSome = true) :
    (v.step act).due?.isSome = true := by
  cases act with
  | turn => rwa [step, due?_turn]
  | publish state =>
      rcases h with hc | hp
      · simpa [step, hc] using hd
      · exact absurd List.mem_cons_self (hp state)
  | stall | configure => exact hd
  | shutdown => exact due?_isSome.2 (.inr (.inl rfl))
  | tick milliseconds =>
      have hlater := Nat.le_add_right v.clock milliseconds
      exact due?_isSome.2 ((due?_isSome.1 hd).imp id (Or.imp id fun hl => isLate_mono hl hlater))

/-- Nobody but the observer changes how many turns it needs, while nothing is published. -/
theorem Quiet.turnsLeft_step (h : v.Quiet (act :: acts)) (hn : act.isTurn = false) :
    (v.step act).turnsLeft = v.turnsLeft := by
  cases act with
  | turn => cases hn
  | publish state =>
      rcases h with hc | hp
      · simp [step, hc]
      · exact absurd List.mem_cons_self (hp state)
  | stall | configure | shutdown | tick => rfl

/-- What is due is reported after a few turns, whoever acts between them. -/
theorem Wakeful.reports (h : v.Wakeful) (hd : v.due?.isSome = true) (hq : v.Quiet acts)
    (ht : v.turnsLeft ≤ acts.countP Act.isTurn) : (v.run acts).outcome?.isSome = true := by
  -- a turn lowers the number of turns that are left, and nobody else changes it
  induction acts generalizing v with
  | nil =>
      cases hs : v.stance with
      | reported => simp [run_nil, outcome?, hs]
      | looking => simp [turnsLeft, hs] at ht
      | waiting =>
          simp only [turnsLeft, hs, List.countP_nil] at ht
          split at ht <;> omega
  | cons act acts ih =>
      rw [run_cons]
      cases ho : v.outcome? with
      | some outcome => rw [outcome?_run (outcome?_step ho act), Option.isSome_some]
      | none =>
          have hnext := h.step act
          cases ha : act.isTurn with
          | false =>
              rw [List.countP_cons_of_neg (by simp [ha])] at ht
              exact ih hnext (hq.step_due hd) hq.tail (by rwa [hq.turnsLeft_step ha])
          | true =>
              rw [List.countP_cons_of_pos ha] at ht
              obtain rfl : act = .turn := by
                cases act <;> first | rfl | cases ha
              obtain ⟨outcome, hdue⟩ := Option.isSome_iff_exists.1 hd
              rcases h.turn_due ho hdue with hr | ⟨_, hlt⟩
              · rw [step_turn, outcome?_run hr, Option.isSome_some]
              · have hle : v.turn.turnsLeft ≤ acts.countP Act.isTurn := by omega
                exact ih hnext (hq.step_due hd) hq.tail hle

theorem turnsLeft_le (v : Vigil) : v.turnsLeft ≤ 3 := by
  unfold turnsLeft
  split
  · omega
  · split <;> omega
  · omega

theorem Wakeful.due_of_turns (h : v.Wakeful) (hn : v.outcome? = none) {n : Nat}
    (hr : (v.run (List.replicate n .turn)).outcome? = some outcome) : v.due? = some outcome := by
  induction n generalizing v with
  | zero => simp [run_nil, hn] at hr
  | succ n ih =>
      rw [List.replicate_succ, run_cons] at hr
      cases ho : (v.step .turn).outcome? with
      | none => rw [← due?_turn, ← step_turn, ih (h.step .turn) ho hr]
      | some first =>
          rw [outcome?_run ho, Option.some.injEq] at hr
          exact hr ▸ (h.due_of_reported hn ho).2

/-- As many turns in a row as an observer may need. -/
def glance (v : Vigil) : Vigil :=
  v.run (List.replicate 3 .turn)

/-- An observer that is not interrupted reports just what is due. -/
theorem Wakeful.glance_outcome (h : v.Wakeful) (hn : v.outcome? = none) : v.glance.outcome? = v.due? := by
  cases ho : v.glance.outcome? with
  | some outcome => exact (h.due_of_turns hn ho).symm
  | none =>
      by_contra hd
      have hq : v.Quiet (List.replicate 3 .turn) := .inr (by simp)
      have hs := h.reports (Option.isSome_iff_ne_none.2 (Ne.symm hd)) hq v.turnsLeft_le
      rw [← glance, ho] at hs
      cases hs

theorem not_holds_of_due? (hd : v.due? = none) : v.observer.holds v.service.state = false := by
  by_contra hh
  rw [Bool.not_eq_false] at hh
  have := due?_isSome.2 (.inl hh)
  rw [hd] at this
  cases this

theorem turn_caughtUp (hd : v.due? = none) : v.caughtUp.turn = v.caughtUp :=
  ((Wakeful.caughtUp (not_holds_of_due? hd)).turn_caught_up rfl v.isBehind_caughtUp).2 hd

theorem Wakeful.eq_caughtUp (h : v.Wakeful) {last : ClusterState} (hs : v.stance = .waiting last)
    (hb : v.observer.isBehind v.service = false) : v.caughtUp = v := by
  have hlast := h.last last hs hb
  have hseen : v.observer.seen = some v.service.published := by simpa [Observer.isBehind] using hb
  simp only [Vigil.caughtUp, Observer.afterLook, ← hseen, ← hlast, ← hs]

/-- If nothing is due it waits for another state than the newest. -/
theorem Wakeful.glance_in_vain (h : v.Wakeful) (hn : v.outcome? = none) (hd : v.due? = none) :
    v.glance = v.caughtUp := by
  have hc := turn_caughtUp hd
  have hh := not_holds_of_due? hd
  simp only [glance, List.replicate_succ, List.replicate_zero, run_cons, run_nil, step_turn]
  cases hs : v.stance with
  | reported => simp [outcome?, hs] at hn
  | looking => rw [turn_in_vain hs hh, hc, hc]
  | waiting last =>
      cases hb : v.observer.isBehind v.service with
      | false =>
          rw [h.eq_caughtUp hs hb] at hc ⊢
          rw [hc, hc, hc]
      | true =>
          -- one turn to find out that there is a newer state, one to look at it
          have hl : v.turn.turn = v.caughtUp := by
            rw [turn_behind hs hb]
            exact turn_in_vain rfl hh
          rw [hl, hc]

theorem run_keeps (v : Vigil) (acts : List Act) : (v.run acts).observer.holds = v.observer.holds ∧
    (v.run acts).observer.deadline = v.observer.deadline := by
  induction acts generalizing v with
  | nil => exact ⟨rfl, rfl⟩
  | cons act acts ih =>
      rw [run_cons, (ih (v.step act)).1, (ih (v.step act)).2]
      cases act with
      | turn => exact v.turn_keeps.2.2
      | publish state =>
          rw [step]
          split <;> exact ⟨rfl, rfl⟩
      | stall | configure | shutdown | tick => exact ⟨rfl, rfl⟩

/-- What an outcome says of the moment in which it is reported. -/
def Tells (v : Vigil) : Observed → Prop
  | .matched s => s = v.service.state ∧ v.observer.holds s = true
  | .timedOut s => s = v.service.state ∧ v.observer.holds s = false ∧ v.observer.isLate v.clock = true
  | .closed => v.service.isOpen = false ∧ v.observer.holds v.service.state = false

theorem tells_of_due? (h : v.due? = some outcome) : v.Tells outcome := by
  unfold due? at h
  split at h
  case isTrue hh =>
    cases h
    exact ⟨rfl, hh⟩
  case isFalse hh =>
    rw [Bool.not_eq_true] at hh
    split at h
    case isTrue ho =>
      cases h
      exact ⟨by simpa using ho, hh⟩
    case isFalse =>
      split at h
      case isTrue hl =>
        cases h
        exact ⟨rfl, hh, hl⟩
      case isFalse => cases h

end Vigil

end ClusterControl
