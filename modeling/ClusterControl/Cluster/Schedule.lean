import ClusterControl.Cluster.System

/-!
Running a system on one thread, first come, first served. The worker applies every queued task when
its turn comes. One client may be attended to: it runs whenever nobody else can. Time passes only
when nobody can run at all.
-/

namespace ClusterControl

inductive Job
  | worker
  | client (client : Nat)
  deriving DecidableEq

structure Schedule where
  system : System
  ready : List Job
  /-- The client attended to. -/
  attended : Option Nat

namespace Schedule

def start (system : System) : Schedule :=
  ⟨system, [], none⟩

/-- The numbers of the clients whose phase is such. -/
def clientsWith (sys : System) (p : Phase → Bool) : List Nat :=
  (List.range sys.clients.length).filter fun client => sys.clients[client]?.any p

/-- Adds jobs at the end, each once. -/
def enqueue (ready jobs : List Job) : List Job :=
  jobs.foldl (fun ready job => if ready.contains job then ready else ready ++ [job]) ready

def wake (s : Schedule) (clients : List Nat) : Schedule :=
  { s with
    ready := enqueue s.ready ((clients.filter fun c => s.attended ≠ some c).map Job.client) }

/-- Who can run because of the step from `before` to `after`, beside a new listener: the observers,
if there is something to see, and the client that got a reply. -/
def woken (before after : System) : List Nat :=
  let news := before.service.published ≠ after.service.published ||
    before.service.isOpen ≠ after.service.isOpen
  let observers := if news then clientsWith before fun phase => phase.observer?.isSome else []
  observers ++ clientsWith after Phase.isReplied

/-- The listeners that have not looked yet. -/
def freshListeners (sys : System) : List Nat :=
  clientsWith sys fun phase => phase.observer?.any fun observer => observer.seen.isNone

/-- The observers whose time is over. -/
def lateObservers (sys : System) : List Nat :=
  clientsWith sys fun phase => phase.observer?.any fun observer => observer.isLate sys.clock

def perform (s : Schedule) (e : Event) : Schedule :=
  let after := s.system.step e
  let next := { s with system := after }.wake (woken s.system after)
  let worker := if s.system.queue.length < after.queue.length then [Job.worker] else []
  { next with
    ready := enqueue next.ready (worker ++ (freshListeners after).map Job.client) }

/-- Applies this many tasks. -/
def applyTasks : Nat → Schedule → Schedule
  | 0, s => s
  | n + 1, s => applyTasks n (s.perform .apply)

def runJob (s : Schedule) : Job → Schedule
  | .worker => applyTasks s.system.queue.length s
  | .client client => s.perform (.poll client)

def settleWithin : Nat → Schedule → Schedule
  | 0, s => s
  | fuel + 1, s =>
    match s.ready with
    | [] => s
    | job :: ready => settleWithin fuel ({ s with ready }.runJob job)

/-- More jobs than can come up at one time: a client submits one task at most, and a task or the
end of the service wakes every client once at most. -/
def jobBound (s : Schedule) : Nat :=
  let many := s.system.clients.length + 3
  2 * (many * many)

/-- Runs everything that can run without the clock. -/
def settle (s : Schedule) : Schedule :=
  settleWithin s.jobBound s

/-- The clock moves on, and those whose time is over get to run. -/
def tick (s : Schedule) (milliseconds : Nat) : Schedule :=
  let system := s.system.step (.tick milliseconds)
  { s with system }.wake (lateObservers system)

def nextDeadline? (s : Schedule) : Option Nat :=
  (s.system.clients.filterMap fun phase => phase.observer?.bind Observer.deadline).min?

/-- Runs until a client has its answer, letting time pass where nothing else helps. -/
def awaitWithin : Nat → Nat → Schedule → Schedule
  | 0, _, s => s
  | fuel + 1, client, s =>
    let s := s.perform (.poll client)
    if (s.system.answer? client).isSome then s
    else if !s.ready.isEmpty then awaitWithin fuel client s.settle
    else
      match s.nextDeadline? with
      | none => s
      | some deadline => awaitWithin fuel client (s.tick (deadline - s.system.clock)).settle

/-- Each round of waiting brings a reply or passes a deadline. -/
def await (s : Schedule) (client : Nat) : Schedule :=
  awaitWithin (2 * s.system.clients.length + 4) client s

/-- Lets a new client come, to run when its turn is. -/
def spawn (s : Schedule) (c : Call) : Schedule :=
  (s.perform (.call c)).wake [s.system.clients.length]

/-- Makes a call and attends to it until it is answered; then the others run. -/
def call (s : Schedule) (c : Call) : Schedule × Option Answer :=
  let client := s.system.clients.length
  let attended := { s.perform (.call c) with attended := some client }
  let s := { attended.await client with attended := none }.settle
  (s, s.system.answer? client)

/-- Waits for a client that came before. -/
def join (s : Schedule) (client : Nat) : Schedule × Option Answer :=
  let s := (s.await client).settle
  (s, s.system.answer? client)

/-- Lets time pass. -/
def advance (s : Schedule) (milliseconds : Nat) : Schedule :=
  (s.tick milliseconds).settle

end Schedule

end ClusterControl
