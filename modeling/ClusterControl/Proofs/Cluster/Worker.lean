import ClusterControl.Proofs.Cluster.History

/-!
The worker of a service, one turn at a time. It runs the first task in the queue, and in another turn
publishes what the task computed; between the two tasks are submitted, commits stalled or resumed,
settings changed and the service shut down. To apply a task in one go is to take both turns together, so a
run of a system is a run of its worker.
-/

namespace ClusterControl

/-- A service at work. Tasks are numbered in the order in which they were submitted. -/
structure Worker where
  service : ClusterService
  submitted : Nat
  queue : List (Nat × Task)
  /-- The task that was run last, until its reply, and what it computed. -/
  atHand : Option (Nat × Except UpdateError ClusterState)
  replies : List (Nat × Except UpdateError Receipt)

namespace Worker

inductive Act
  | begin
  | finish
  | submit (task : Task)
  | stall (stalled : Bool)
  | configure (board : SettingsBoard)
  | shutdown

def start (service : ClusterService) : Worker := ⟨service, 0, [], none, []⟩

def step (w : Worker) : Act → Worker
  | .begin =>
    match w.atHand, w.queue with
    | none, (number, task) :: queue => { w with queue, atHand := some (number, w.service.compute task) }
    | _, _ => w
  | .finish =>
    match w.atHand with
    | none => w
    | some (number, computed) =>
      { w with
        service := (w.service.conclude computed).1
        atHand := none
        replies := w.replies ++ [(number, (w.service.conclude computed).2)] }
  | .submit task =>
    if w.service.isOpen then
      { w with submitted := w.submitted + 1, queue := w.queue ++ [(w.submitted, task)] }
    else
      { w with
        submitted := w.submitted + 1
        replies := w.replies ++ [(w.submitted, .error .serviceClosed)] }
  | .stall stalled => { w with service := w.service.stall stalled }
  | .configure board => { w with service.board := board }
  | .shutdown => { w with service := w.service.shutdown }

def run (w : Worker) (acts : List Act) : Worker :=
  acts.foldl step w

variable {w : Worker} {number : Nat}

theorem run_append (w : Worker) (acts more : List Act) : w.run (acts ++ more) = (w.run acts).run more :=
  List.foldl_append

theorem run_concat (w : Worker) (acts : List Act) (act : Act) : w.run (acts ++ [act]) = (w.run acts).step act :=
  run_append w acts [act]

theorem step_begin {task : Task} {queue : List (Nat × Task)} (ha : w.atHand = none)
    (hq : w.queue = (number, task) :: queue) :
    w.step .begin = { w with queue := queue, atHand := some (number, w.service.compute task) } := by
  simp only [step, ha, hq]

theorem step_finish {computed : Except UpdateError ClusterState} (ha : w.atHand = some (number, computed)) :
    w.step .finish =
      { w with
        service := (w.service.conclude computed).1
        atHand := none
        replies := w.replies ++ [(number, (w.service.conclude computed).2)] } := by
  simp only [step, ha]

/-- Both turns together apply the first task in the queue. -/
theorem begin_finish {task : Task} {queue : List (Nat × Task)} (ha : w.atHand = none)
    (hq : w.queue = (number, task) :: queue) :
    w.run [.begin, .finish] =
      { w with
        service := (w.service.apply task).1
        queue := queue
        replies := w.replies ++ [(number, (w.service.apply task).2)] } := by
  rw [run, List.foldl_cons, List.foldl_cons, List.foldl_nil, step_begin ha hq, step_finish rfl]
  rw [← ha]
  rfl

/-- The worker that a system runs: between two tasks, with the same tasks queued. -/
structure Shows (w : Worker) (sys : System) : Prop where
  service : w.service = sys.service
  atHand : w.atHand = none
  queue : w.queue.map Prod.snd = sys.queue.map Prod.snd

variable {sys : System} {client : Nat} {phase : Phase}

theorem Shows.poll (h : w.Shows sys) (hc : sys.clients[client]? = some phase) :
    ∃ acts, (w.run acts).Shows (sys.step (.poll client)) := by
  have ht := System.turn_proceed sys client phase
  rw [System.step_poll hc]
  rcases ht.queue with ⟨hq, _⟩ | ⟨_, task, _, _, hq⟩
  · have hqueue : w.queue.map Prod.snd = (sys.proceed client phase).1.queue.map Prod.snd := by
      rw [hq]
      exact h.queue
    have hs := ht.service
    rw [← h.service] at hs
    generalize hn : (sys.proceed client phase).1.service = next at hs
    cases hs with
    | same => exact ⟨[], hn.symm, h.atHand, hqueue⟩
    | stall stalled => exact ⟨[.stall stalled], hn.symm, h.atHand, hqueue⟩
    | configure board => exact ⟨[.configure board], hn.symm, h.atHand, hqueue⟩
    | shutdown => exact ⟨[.shutdown], hn.symm, h.atHand, hqueue⟩
  · obtain ⟨ho, hs⟩ := ht.taken (by simp [hq])
    rw [← h.service] at ho
    have hw : w.run [.submit task] =
        { w with submitted := w.submitted + 1, queue := w.queue ++ [(w.submitted, task)] } := by
      simp only [run, List.foldl_cons, List.foldl_nil, step, ho, if_true]
    refine ⟨[.submit task], ?_⟩
    rw [hw]
    exact ⟨h.service.trans hs.symm, h.atHand, by simp [hq, h.queue]⟩

theorem Shows.apply (h : w.Shows sys) : ∃ acts, (w.run acts).Shows (sys.step .apply) := by
  cases hq : sys.queue with
  | nil =>
      rw [System.step_apply_nil hq]
      exact ⟨[], h⟩
  | cons entry rest =>
      obtain ⟨client, task⟩ := entry
      have hw := h.queue
      rw [hq, List.map_cons] at hw
      obtain ⟨⟨number, _⟩, queue, he, rfl, hrest⟩ := List.map_eq_cons_iff.1 hw
      refine ⟨[.begin, .finish], ?_⟩
      rw [System.step_apply hq, begin_finish h.atHand he, h.service]
      exact ⟨rfl, h.atHand, hrest⟩

/-- Every run of a system is one of its worker, where no client acts while a task is at hand. -/
theorem shows_run (service : ClusterService) (events : List Event) :
    ∃ acts, ((start service).run acts).Shows ((System.start service).run events) := by
  apply System.run_induction (motive := fun _ sys => ∃ acts, ((start service).run acts).Shows sys)
  · exact ⟨[], rfl, rfl, rfl⟩
  · rintro events e ⟨acts, h⟩
    obtain ⟨more, hm⟩ : ∃ more, (((start service).run acts).run more).Shows
        (((System.start service).run events).step e) := by
      cases e with
      | call | tick => exact ⟨[], h.service, h.atHand, h.queue⟩
      | apply => exact h.apply
      | poll client =>
          cases hc : ((System.start service).run events).clients[client]? with
          | none =>
              rw [System.step_poll_none hc]
              exact ⟨[], h⟩
          | some phase => exact h.poll hc
    exact ⟨acts ++ more, by rwa [run_append]⟩

/-- From `w` to `next` one state was published, for the task of this number, which had computed `computed`. -/
structure Publishes (w next : Worker) (number : Nat) (computed : ClusterState) : Prop where
  published : next.service.published = w.service.published + 1
  released : w.service.Releases computed next.service.state
  replies : next.replies = w.replies ++ [(number, .ok ⟨w.service.state, next.service.state⟩)]

/-- From `w` to `next` nothing was published, and no task succeeded. -/
structure Quiet (w next : Worker) : Prop where
  published : next.service.published = w.service.published
  state : next.service.state = w.service.state
  replies : ∃ failed, next.replies = w.replies ++ failed ∧ ∀ reply ∈ failed, reply.2.isOk = false

/-- A state is published by the worker's second turn only, and then exactly if the task computed one and
the service is still open. -/
inductive Effect (w : Worker) : Act → Prop
  | publishes (number : Nat) (computed : ClusterState) (ha : w.atHand = some (number, .ok computed))
      (ho : w.service.isOpen = true) (h : w.Publishes (w.step .finish) number computed) : Effect w .finish
  | quiet {act : Act} (hn : ∀ number computed, act = .finish → w.atHand = some (number, .ok computed) →
      w.service.isOpen = false) (h : w.Quiet (w.step act)) : Effect w act

theorem Quiet.of_service {next : Worker} (hp : next.service.published = w.service.published)
    (hs : next.service.state = w.service.state) (hr : next.replies = w.replies) : w.Quiet next :=
  ⟨hp, hs, [], by simp [hr], by simp⟩

theorem Quiet.of_error {next : Worker} (number : Nat) (error : UpdateError) (hs : next.service = w.service)
    (hr : next.replies = w.replies ++ [(number, .error error)]) : w.Quiet next :=
  ⟨by rw [hs], by rw [hs], _, hr, by simp [Except.isOk, Except.toBool]⟩

theorem effect_finish (w : Worker) : w.Effect .finish := by
  cases ha : w.atHand with
  | none =>
      refine .quiet (by simp [ha]) ?_
      rw [step, ha]
      exact .of_service rfl rfl rfl
  | some entry =>
      obtain ⟨number, computed⟩ := entry
      cases hr : (w.service.conclude computed).2 with
      | error error =>
          refine .quiet ?_ (.of_error number error ?_ ?_)
          · intro n next _ he
            cases ha.symm.trans he
            cases ho : w.service.isOpen with
            | false => rfl
            | true => simp [ClusterService.conclude, ho] at hr
          · rw [step_finish ha, ClusterService.conclude_error hr]
          · rw [step_finish ha, hr]
      | ok receipt =>
          obtain ⟨next, rfl, ho, rfl, hs⟩ := ClusterService.conclude_ok hr
          refine .publishes number next ha ho ?_
          rw [step_finish ha, hs, hr]
          exact ⟨rfl, w.service.releases_succeed next, rfl⟩

theorem effect (w : Worker) (act : Act) : w.Effect act := by
  cases act with
  | finish => exact effect_finish w
  | begin =>
      refine .quiet nofun ?_
      rw [step]
      split <;> exact .of_service rfl rfl rfl
  | submit task =>
      refine .quiet nofun ?_
      rw [step]
      split
      · exact .of_service rfl rfl rfl
      · exact .of_error w.submitted .serviceClosed rfl rfl
  | stall | configure | shutdown => exact .quiet nofun (.of_service rfl rfl rfl)

/-- How many tasks succeeded. -/
def applied (w : Worker) : Nat :=
  w.replies.countP fun reply => reply.2.isOk

theorem Quiet.applied_eq {next : Worker} (h : w.Quiet next) : next.applied = w.applied := by
  obtain ⟨failed, hr, hf⟩ := h.replies
  have hz : failed.countP (fun reply => reply.2.isOk) = 0 :=
    List.countP_eq_zero.2 fun reply hm => by simp [hf reply hm]
  rw [applied, hr, List.countP_append, hz, Nat.add_zero, applied]

theorem Effect.counts {act : Act} (h : w.Effect act) :
    (w.step act).service.published + w.applied = w.service.published + (w.step act).applied ∧
      (w.step act).service.state.version + w.applied = w.service.state.version + (w.step act).applied := by
  cases h with
  | publishes number computed _ _ h =>
      have happ : (w.step .finish).applied = w.applied + 1 := by
        simp [applied, h.replies, List.countP_append, Except.isOk, Except.toBool]
      rw [happ, h.published, h.released.version]
      omega
  | quiet _ h =>
      rw [h.applied_eq, h.published, h.state]
      exact ⟨rfl, rfl⟩

theorem counts_run (service : ClusterService) (acts : List Act) :
    let w := (start service).run acts
    w.service.published = service.published + w.applied ∧
      w.service.state.version = service.state.version + w.applied := by
  induction acts using List.reverseRecOn with
  | nil => exact ⟨rfl, rfl⟩
  | append_singleton acts act ih =>
      have hc := (effect ((start service).run acts) act).counts
      rw [run_concat]
      dsimp only at ih ⊢
      omega

/-- The numbers of all tasks, as far as each has come. -/
def numbers (w : Worker) : List Nat :=
  w.replies.map Prod.fst ++ (w.atHand.map Prod.fst).toList ++ w.queue.map Prod.fst

/-- Each task that was submitted is answered, at hand or queued, and once. -/
def Numbered (w : Worker) : Prop :=
  w.numbers.Perm (List.range w.submitted)

theorem Numbered.step (h : w.Numbered) (act : Act) : (w.step act).Numbered := by
  cases act with
  | stall | configure | shutdown => exact h
  | begin =>
      cases ha : w.atHand with
      | some => simpa [Worker.step, ha] using h
      | none =>
          cases hq : w.queue with
          | nil => simpa [Worker.step, ha, hq] using h
          | cons entry queue =>
              rw [step_begin ha hq]
              simpa [Numbered, numbers, ha, hq] using h
  | finish =>
      cases ha : w.atHand with
      | none => simpa [Worker.step, ha] using h
      | some entry =>
          rw [step_finish ha]
          simpa [Numbered, numbers, ha] using h
  | submit task =>
      have hp : (w.numbers ++ [w.submitted]).Perm (List.range (w.submitted + 1)) := by
        rw [List.range_succ]
        exact h.append_right [w.submitted]
      rw [Worker.step]
      split
      · simpa [Numbered, numbers] using hp
      · refine List.Perm.trans ?_ hp
        have hc : ([w.submitted] ++ ((w.atHand.map Prod.fst).toList ++ w.queue.map Prod.fst)).Perm
            ((w.atHand.map Prod.fst).toList ++ w.queue.map Prod.fst ++ [w.submitted]) :=
          List.perm_append_comm
        simpa [numbers] using hc.append_left (w.replies.map Prod.fst)

theorem numbered_run (service : ClusterService) (acts : List Act) : ((start service).run acts).Numbered := by
  induction acts using List.reverseRecOn with
  | nil => exact List.Perm.refl _
  | append_singleton acts act ih =>
      rw [run_concat]
      exact ih.step act

theorem Numbered.nodup (h : w.Numbered) : w.numbers.Nodup :=
  h.symm.nodup List.nodup_range

theorem Numbered.mem_iff (h : w.Numbered) : number ∈ w.numbers ↔ number < w.submitted := by
  rw [List.Perm.mem_iff h, List.mem_range]

/-- A task that is still queued, or still to be submitted, is neither answered nor at hand. -/
theorem Numbered.not_begun (h : w.Numbered) (hn : number ∈ w.queue.map Prod.fst ∨ w.submitted ≤ number) :
    number ∉ w.replies.map Prod.fst ++ (w.atHand.map Prod.fst).toList := by
  intro hm
  rcases hn with hq | hl
  · exact (List.nodup_append.1 h.nodup).2.2 number hm number hq rfl
  · have := h.mem_iff.1 (List.mem_append_left _ hm)
    omega

theorem compute_of_closed {service : ClusterService} (h : service.isOpen = false) (task : Task) :
    service.compute task = .error .serviceClosed := by
  simp [ClusterService.compute, h]

/-- What becomes of a closed service: no task succeeds any more, and one that was not begun yet fails
because the service is closed. -/
structure Closing (w later : Worker) : Prop where
  isClosed : later.service.isOpen = false
  state : later.service.state = w.service.state
  published : later.service.published = w.service.published
  atHand : ∀ number computed, later.atHand = some (number, computed) →
    w.atHand = some (number, computed) ∨ computed = .error .serviceClosed
  replies : ∀ number reply, (number, reply) ∈ later.replies →
    (number, reply) ∈ w.replies ∨ (∃ computed, w.atHand = some (number, computed)) ∨ reply = .error .serviceClosed

theorem conclude_of_closed {service : ClusterService} (h : service.isOpen = false)
    (computed : Except UpdateError ClusterState) : (service.conclude computed).1 = service := by
  cases computed <;> simp [ClusterService.conclude, h]

theorem Closing.step {later : Worker} (h : w.Closing later) (act : Act) : w.Closing (later.step act) := by
  have hquiet : later.Quiet (later.step act) := by
    cases later.effect act with
    | quiet _ hq => exact hq
    | publishes _ _ _ ho =>
        rw [h.isClosed] at ho
        cases ho
  have hstate := hquiet.state.trans h.state
  have hpublished := hquiet.published.trans h.published
  cases act with
  | stall | configure => exact ⟨h.isClosed, hstate, hpublished, h.atHand, h.replies⟩
  | shutdown => exact ⟨rfl, hstate, hpublished, h.atHand, h.replies⟩
  | submit task =>
      simp only [Worker.step, h.isClosed, Bool.false_eq_true, if_false] at hstate hpublished ⊢
      refine ⟨h.isClosed, hstate, hpublished, h.atHand, ?_⟩
      intro number reply hm
      rcases List.mem_append.1 hm with hm | hm
      · exact h.replies number reply hm
      · cases List.mem_singleton.1 hm
        exact .inr (.inr rfl)
  | begin =>
      cases ha : later.atHand with
      | some => simpa only [Worker.step, ha] using h
      | none =>
          cases hq : later.queue with
          | nil => simpa only [Worker.step, ha, hq] using h
          | cons entry queue =>
              rw [step_begin ha hq, compute_of_closed h.isClosed]
              refine ⟨h.isClosed, h.state, h.published, ?_, h.replies⟩
              intro number computed he
              cases he
              exact .inr rfl
  | finish =>
      cases ha : later.atHand with
      | none => simpa only [Worker.step, ha] using h
      | some entry =>
          obtain ⟨n, computed⟩ := entry
          rw [step_finish ha] at hstate hpublished ⊢
          refine ⟨(conclude_of_closed h.isClosed computed).symm ▸ h.isClosed, hstate, hpublished, by simp, ?_⟩
          intro number reply hm
          rcases List.mem_append.1 hm with hm | hm
          · exact h.replies number reply hm
          · cases List.mem_singleton.1 hm
            refine .inr ?_
            rcases h.atHand n computed ha with hw | rfl
            · exact .inl ⟨computed, hw⟩
            · exact .inr rfl

theorem closing_run (w : Worker) (acts : List Act) : w.Closing ((w.step .shutdown).run acts) := by
  induction acts using List.reverseRecOn with
  | nil => exact ⟨rfl, rfl, rfl, fun _ _ h => .inl h, fun _ _ h => .inl h⟩
  | append_singleton acts act ih =>
      rw [run_concat]
      exact ih.step act

/-- As many turns as the worker needs for this many queued tasks beside the one at hand. -/
def turns : Nat → List Act
  | 0 => [.finish]
  | n + 1 => .finish :: .begin :: turns n

theorem step_finish_queue (w : Worker) : (w.step .finish).queue = w.queue ∧ (w.step .finish).atHand = none ∧
    (w.step .finish).submitted = w.submitted := by
  cases ha : w.atHand with
  | none => exact ⟨by simp only [step, ha], by simp only [step, ha], by simp only [step, ha]⟩
  | some entry => exact ⟨by rw [step_finish ha], by rw [step_finish ha], by rw [step_finish ha]⟩

theorem run_turns {n : Nat} {w : Worker} (hn : w.queue.length = n) :
    (w.run (turns n)).queue = [] ∧ (w.run (turns n)).atHand = none ∧
      (w.run (turns n)).submitted = w.submitted := by
  induction n generalizing w with
  | zero =>
      obtain ⟨hq, ha, hs⟩ := w.step_finish_queue
      exact ⟨hq.trans (List.length_eq_zero_iff.1 hn), ha, hs⟩
  | succ n ih =>
      obtain ⟨hq, ha, hs⟩ := w.step_finish_queue
      obtain ⟨⟨number, task⟩, queue, he⟩ := List.exists_cons_of_length_eq_add_one hn
      have hb := step_begin ha (hq.trans he)
      have hl : ((w.step .finish).step .begin).queue.length = n := by
        rw [hb]
        simpa [he] using hn
      obtain ⟨hq', ha', hs'⟩ := ih hl
      refine ⟨hq', ha', hs'.trans ?_⟩
      rw [hb]
      exact hs

/-- Every task that was submitted is answered once the worker had its turns. -/
theorem answered_after_turns (h : (w.run (turns w.queue.length)).Numbered) (hn : number < w.submitted) :
    ∃ reply, (number, reply) ∈ (w.run (turns w.queue.length)).replies := by
  obtain ⟨hq, ha, hs⟩ := run_turns (rfl : w.queue.length = w.queue.length)
  have hm := h.mem_iff.2 (hs ▸ hn)
  rw [numbers, hq, ha] at hm
  simp only [Option.map_none, Option.toList_none, List.map_nil, List.append_nil] at hm
  obtain ⟨⟨_, reply⟩, he, rfl⟩ := List.mem_map.1 hm
  exact ⟨reply, he⟩

end Worker

end ClusterControl
