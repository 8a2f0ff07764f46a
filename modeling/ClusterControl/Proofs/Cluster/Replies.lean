import ClusterControl.Proofs.Cluster.Worker

/-!
What is replied to the tasks of a run, and why. A task is run once, on the state that was published last, and the
reply tells what its function made of that: the state published from it, or its fault. Only the end of the service
comes between, and then nothing is published for the task.
-/

namespace ClusterControl

/-- What comes of a task where a service runs it: the state that its function computes, or the fault of its function;
a closed service runs none. -/
inductive ClusterService.Runs (service : ClusterService) (task : Task) : Except UpdateError ClusterState → Prop
  | computes {next : ClusterState} (ho : service.isOpen = true)
      (h : task.run service.settings service.state = .ok next) : Runs service task (.ok next)
  | fails {fault : TaskFault} (ho : service.isOpen = true)
      (h : task.run service.settings service.state = .error fault) :
      Runs service task (.error (.taskFailed task.source fault))
  | refuses (ho : service.isOpen = false) : Runs service task (.error .serviceClosed)

theorem ClusterService.runs_compute (service : ClusterService) (task : Task) :
    service.Runs task (service.compute task) := by
  unfold compute
  split
  case isTrue ho => exact .refuses (by simpa using ho)
  case isFalse ho =>
    have ho' : service.isOpen = true := by simpa using ho
    split
    case h_1 h => exact .fails ho' h
    case h_2 h => exact .computes ho' h

/-- Applied tasks that lead from one state to another, each of which saw the state that the one before it published. -/
inductive Receipt.Chain : ClusterState → List Receipt → ClusterState → Prop
  | nil (s : ClusterState) : Chain s [] s
  | concat {first : ClusterState} {receipts : List Receipt} {receipt : Receipt}
      (h : Chain first receipts receipt.before) : Chain first (receipts ++ [receipt]) receipt.after

namespace Worker

variable {w : Worker} {service : ClusterService} {acts : List Act} {number : Nat} {seen : ClusterState}
  {computed : Except UpdateError ClusterState} {reply : Except UpdateError Receipt}

/-- The tasks that are submitted in a run, each in the place of its number. -/
def submissions (acts : List Act) : List Task :=
  acts.filterMap fun
    | .submit task => some task
    | _ => none

theorem submissions_append (acts more : List Act) : submissions (acts ++ more) = submissions acts ++ submissions more :=
  List.filterMap_append

theorem submissions_concat {act : Act} (ht : submissions [act] = []) (acts : List Act) :
    submissions (acts ++ [act]) = submissions acts := by
  rw [submissions_append, ht, List.append_nil]

/-- The worker ran the task of this number on the state `seen`, and this came of it. -/
def Ran (service : ClusterService) (acts : List Act) (number : Nat) (seen : ClusterState)
    (computed : Except UpdateError ClusterState) : Prop :=
  ∃ earlier task, earlier ++ [.begin] <+: acts ∧ (submissions earlier)[number]? = some task ∧
    ((start service).run earlier).service.state = seen ∧ ((start service).run earlier).service.Runs task computed

/-- Why the task of this number gets this reply. -/
inductive Replied (service : ClusterService) (acts : List Act) (number : Nat) : Except UpdateError Receipt → Prop
  | applied {earlier : List Act} {next : ClusterState} {receipt : Receipt} (hf : earlier ++ [.finish] <+: acts)
      (hr : Ran service earlier number receipt.before (.ok next))
      (hs : ((start service).run earlier).service.state = receipt.before)
      (ho : ((start service).run earlier).service.isOpen = true)
      (h : ((start service).run earlier).service.Releases next receipt.after) :
      Replied service acts number (.ok receipt)
  | failed {seen : ClusterState} {source : String} {fault : TaskFault}
      (hr : Ran service acts number seen (.error (.taskFailed source fault))) :
      Replied service acts number (.error (.taskFailed source fault))
  | closed (h : ((start service).run acts).service.isOpen = false) : Replied service acts number (.error .serviceClosed)

/-- After a run, what is queued are tasks that were submitted, what is at hand came of one of them that was run on the
state published last, and each reply has its reason. -/
structure Accounts (service : ClusterService) (acts : List Act) (w : Worker) : Prop where
  submitted : w.submitted = (submissions acts).length
  queue : ∀ number task, (number, task) ∈ w.queue → (submissions acts)[number]? = some task
  atHand : ∀ number computed, w.atHand = some (number, computed) →
    Ran service acts number w.service.state computed
  replies : ∀ number reply, (number, reply) ∈ w.replies → Replied service acts number reply

theorem isOpen_step (h : w.service.isOpen = false) (act : Act) : (w.step act).service.isOpen = false := by
  have hclosing : w.Closing w := ⟨h, rfl, rfl, fun _ _ h => .inl h, fun _ _ h => .inl h⟩
  exact (hclosing.step act).isClosed

theorem isOpen_run (h : w.service.isOpen = false) (acts : List Act) : (w.run acts).service.isOpen = false := by
  induction acts generalizing w with
  | nil => exact h
  | cons act acts ih => exact ih (isOpen_step h act)

theorem Ran.concat (h : Ran service acts number seen computed) (act : Act) :
    Ran service (acts ++ [act]) number seen computed := by
  obtain ⟨earlier, task, hp, h⟩ := h
  exact ⟨earlier, task, hp.trans (List.prefix_append _ _), h⟩

theorem Ran.isClosed (h : Ran service acts number seen (.error .serviceClosed)) :
    ((start service).run acts).service.isOpen = false := by
  obtain ⟨earlier, task, ⟨later, rfl⟩, _, _, hruns⟩ := h
  rw [List.append_assoc, run_append]
  cases hruns with
  | refuses ho => exact isOpen_run ho _

theorem Replied.concat (h : Replied service acts number reply) (act : Act) :
    Replied service (acts ++ [act]) number reply := by
  cases h with
  | applied hf hr hs ho h => exact .applied (hf.trans (List.prefix_append _ _)) hr hs ho h
  | failed hr => exact .failed (hr.concat act)
  | closed h => exact .closed (run_concat (start service) acts act ▸ isOpen_step h act)

/-- The reply to what is at hand. -/
theorem Ran.replied (h : Ran service acts number ((start service).run acts).service.state computed) :
    Replied service (acts ++ [.finish]) number (((start service).run acts).service.conclude computed).2 := by
  cases computed with
  | error error =>
      cases error with
      | taskFailed source fault => exact .failed (h.concat .finish)
      | serviceClosed => exact (Replied.closed h.isClosed).concat .finish
  | ok next =>
      rw [ClusterService.conclude]
      split
      case isTrue ho => exact (Replied.closed (by simpa using ho)).concat .finish
      case isFalse ho =>
        exact .applied List.prefix_rfl h rfl (by simpa using ho) (ClusterService.releases_succeed _ next)

section Accounts

variable {act : Act} {next : Worker} (h : Accounts service acts w)
include h

theorem Accounts.mem_queue (act : Act) {task : Task} (hm : (number, task) ∈ w.queue) :
    (submissions (acts ++ [act]))[number]? = some task := by
  have hq := h.queue number task hm
  rw [submissions_append, List.getElem?_append_left (List.getElem?_eq_some_iff.1 hq).1]
  exact hq

/-- An act that neither submits nor begins nor finishes a task. -/
theorem Accounts.same (ht : submissions [act] = []) (hs : next.submitted = w.submitted) (hq : next.queue = w.queue)
    (ha : next.atHand = w.atHand) (hstate : next.service.state = w.service.state) (hr : next.replies = w.replies) :
    Accounts service (acts ++ [act]) next := by
  refine ⟨?_, ?_, ?_, ?_⟩
  · rw [hs, h.submitted, submissions_concat ht]
  · intro number task hm
    exact h.mem_queue act (hq ▸ hm)
  · intro number computed hat
    rw [hstate]
    exact (h.atHand number computed (ha ▸ hat)).concat act
  · intro number reply hm
    exact (h.replies number reply (hr ▸ hm)).concat act

end Accounts

theorem accounts_begin (h : Accounts service acts ((start service).run acts)) :
    Accounts service (acts ++ [.begin]) (((start service).run acts).step .begin) := by
  rw [step]
  split
  case h_1 number task queue ha hq =>
    refine ⟨?_, ?_, ?_, ?_⟩
    · rw [h.submitted, submissions_concat rfl]
    · intro n t hm
      exact h.mem_queue .begin (hq ▸ List.mem_cons_of_mem _ hm)
    · intro n computed hat
      cases hat
      have hsubmitted := h.queue number task (hq ▸ List.mem_cons_self)
      exact ⟨acts, task, List.prefix_rfl, hsubmitted, rfl, ClusterService.runs_compute _ task⟩
    · intro n reply hm
      exact (h.replies n reply hm).concat .begin
  case h_2 => exact h.same rfl rfl rfl rfl rfl rfl

theorem accounts_finish (h : Accounts service acts ((start service).run acts)) :
    Accounts service (acts ++ [.finish]) (((start service).run acts).step .finish) := by
  cases ha : ((start service).run acts).atHand with
  | none =>
      have hw : ((start service).run acts).step .finish = (start service).run acts := by rw [step, ha]
      rw [hw]
      exact h.same rfl rfl rfl rfl rfl rfl
  | some entry =>
      obtain ⟨number, computed⟩ := entry
      rw [step_finish ha]
      refine ⟨?_, ?_, ?_, ?_⟩
      · rw [h.submitted, submissions_concat rfl]
      · intro n t hm
        exact h.mem_queue .finish hm
      · intro n computed hat
        cases hat
      · intro n reply hm
        rcases List.mem_append.1 hm with hm | hm
        · exact (h.replies n reply hm).concat .finish
        · cases List.mem_singleton.1 hm
          exact (h.atHand number computed ha).replied

theorem accounts_submit (h : Accounts service acts ((start service).run acts)) (task : Task) :
    Accounts service (acts ++ [.submit task]) (((start service).run acts).step (.submit task)) := by
  have hsubmitted : ((start service).run acts).submitted + 1 = (submissions (acts ++ [.submit task])).length := by
    rw [h.submitted, submissions_append, List.length_append]
    rfl
  have hatHand : ∀ n computed, ((start service).run acts).atHand = some (n, computed) →
      Ran service (acts ++ [.submit task]) n ((start service).run acts).service.state computed :=
    fun n computed hat => (h.atHand n computed hat).concat _
  have hreplies : ∀ n reply, (n, reply) ∈ ((start service).run acts).replies →
      Replied service (acts ++ [.submit task]) n reply :=
    fun n reply hm => (h.replies n reply hm).concat _
  rw [step]
  split
  case isTrue =>
    refine ⟨hsubmitted, ?_, hatHand, hreplies⟩
    intro n t hm
    rcases List.mem_append.1 hm with hm | hm
    · exact h.mem_queue _ hm
    · cases List.mem_singleton.1 hm
      rw [h.submitted, submissions_append, List.getElem?_append_right (Nat.le_refl _), Nat.sub_self]
      rfl
  case isFalse ho =>
    refine ⟨hsubmitted, fun n t hm => h.mem_queue _ hm, hatHand, ?_⟩
    intro n reply hm
    rcases List.mem_append.1 hm with hm | hm
    · exact hreplies n reply hm
    · cases List.mem_singleton.1 hm
      exact (Replied.closed (by simpa using ho)).concat _

theorem accounts_run (service : ClusterService) (acts : List Act) :
    Accounts service acts ((start service).run acts) := by
  induction acts using List.reverseRecOn with
  | nil => exact ⟨rfl, nofun, nofun, nofun⟩
  | append_singleton acts act ih =>
      rw [run_concat]
      cases act with
      | begin => exact accounts_begin ih
      | finish => exact accounts_finish ih
      | submit task => exact accounts_submit ih task
      | stall | configure | shutdown => exact ih.same rfl rfl rfl rfl rfl rfl

/-- The tasks that were applied, in their order. -/
def receipts (w : Worker) : List Receipt :=
  w.replies.filterMap fun reply => reply.2.toOption

theorem Quiet.receipts_eq {next : Worker} (h : w.Quiet next) : next.receipts = w.receipts := by
  obtain ⟨failed, hr, hf⟩ := h.replies
  have hnone : failed.filterMap (fun reply => reply.2.toOption) = [] := by
    rw [List.filterMap_eq_nil_iff]
    rintro ⟨number, reply⟩ hm
    cases reply with
    | error => rfl
    | ok => cases hf _ hm
  rw [receipts, hr, List.filterMap_append, hnone, List.append_nil, receipts]

theorem chain_run (service : ClusterService) (acts : List Act) :
    Receipt.Chain service.state ((start service).run acts).receipts ((start service).run acts).service.state := by
  induction acts using List.reverseRecOn with
  | nil => exact .nil service.state
  | append_singleton acts act ih =>
      rw [run_concat]
      cases ((start service).run acts).effect act with
      | quiet _ h =>
          rw [h.receipts_eq, h.state]
          exact ih
      | publishes number computed _ _ h =>
          rw [receipts, h.replies, List.filterMap_append]
          exact .concat ih

/-- Each task that is applied publishes one state, made from what the function of the task computed on the state
published before, with the version that follows and its own accepted configuration committed unless commits are
stalled; a task whose function fails publishes none and gets its fault. Every task is answered once, and after the
end of the service nothing is published and what was not begun fails. -/
theorem one_state_per_applied_task (service : ClusterService) (acts more : List Act) :
    let w := (start service).run acts
    (∀ act, w.Effect act) ∧ Accounts service acts w ∧
    Receipt.Chain service.state w.receipts w.service.state ∧
    w.service.published = service.published + w.applied ∧
    w.service.state.version = service.state.version + w.applied ∧
    w.Numbered ∧ (∀ number < w.submitted, ∃ reply, (number, reply) ∈ (w.run (turns w.queue.length)).replies) ∧
    let later := (w.step .shutdown).run more
    later.service.state = w.service.state ∧ later.service.published = w.service.published ∧
      ∀ number reply, (number, reply) ∈ later.replies → number ∈ w.queue.map Prod.fst ∨ w.submitted ≤ number →
        reply = .error .serviceClosed := by
  intro w
  have hw : w.Numbered := numbered_run service acts
  obtain ⟨hpublished, hversion⟩ := counts_run service acts
  refine ⟨w.effect, accounts_run service acts, chain_run service acts, hpublished, hversion, hw, ?_, ?_⟩
  · intro number hn
    refine answered_after_turns ?_ hn
    rw [← run_append]
    exact numbered_run service _
  · have hc := w.closing_run more
    refine ⟨hc.state, hc.published, ?_⟩
    intro number reply hm hn
    have hnew := hw.not_begun hn
    rw [List.mem_append, not_or] at hnew
    rcases hc.replies number reply hm with hold | ⟨computed, hold⟩ | hclosed
    · exact absurd (List.mem_map_of_mem hold) hnew.1
    · exact absurd (by simp [hold]) hnew.2
    · exact hclosed

/-- A node that is not there leaves, which fails. Then two tasks are submitted and the worker runs the first. -/
def untilHalfway : List Act :=
  [.submit (.leave "ghost"), .begin, .finish, .submit .clear, .submit .clear, .begin]

def halfway : Worker :=
  (start (.start .initial .initial [])).run untilHalfway

/-- Nothing was published for the task that failed. The task at hand is published if the worker gets to it, and not
if the service is shut down first; then the other one and a later one fail. -/
theorem halfway_published_or_closed :
    (∃ seen, Ran (.start .initial .initial []) untilHalfway 0 seen
      (.error (.taskFailed "node-left" (.unknownNode "ghost")))) ∧
      halfway.service.published = 0 ∧
      (∃ computed, Ran (.start .initial .initial []) untilHalfway 1 halfway.service.state (.ok computed) ∧
        halfway.Publishes (halfway.step .finish) 1 computed) ∧
      let later := (halfway.step .shutdown).run [.finish, .submit .clear, .begin, .finish]
      later.service.state = halfway.service.state ∧ later.replies.map Prod.fst = [0, 1, 3, 2] ∧
        ∀ number reply, (number, reply) ∈ later.replies → number = 2 ∨ 3 ≤ number → reply = .error .serviceClosed := by
  obtain ⟨heffect, haccounts, _, hpublished, _, _, _, hstate, _, hclosed⟩ :=
    one_state_per_applied_task (.start .initial .initial []) untilHalfway [.finish, .submit .clear, .begin, .finish]
  refine ⟨?_, hpublished, ?_, hstate, rfl, ?_⟩
  · cases haccounts.replies 0 (.error (.taskFailed "node-left" (.unknownNode "ghost"))) (List.mem_singleton_self _) with
    | failed hr => exact ⟨_, hr⟩
  · cases heffect .finish with
    | publishes number computed ha _ h =>
        cases ha
        exact ⟨_, haccounts.atHand 1 _ rfl, h⟩
    | quiet hn => cases hn 1 _ rfl rfl
  · intro number reply hm hn
    refine hclosed number reply hm (hn.imp_left ?_)
    rintro rfl
    exact List.mem_singleton_self 2

end Worker

end ClusterControl
