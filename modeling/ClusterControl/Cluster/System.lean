import ClusterControl.Cluster.Call

/-!
A cluster service and its clients. A client runs until it has to wait: for the reply to a task that
it submitted, or for the state that it observes. Between these points anything may happen in any
order: a run is any list of events.
-/

namespace ClusterControl

/-- What a client does with the reply to its task. -/
inductive Purpose
  | exclusion (request : ExclusionRequest) (resolved : ExclusionSet)
  | clearing
  | update

/-- What a client does with what it observes. -/
inductive Watch
  | coordination (wait : Await)
  | report
  | listener

inductive Phase
  | ready (call : Call)
  | submitted (purpose : Purpose)
  | replied (purpose : Purpose) (reply : Except UpdateError Receipt)
  | watching (watch : Watch) (observer : Observer)
  | finished (answer : Answer)

namespace Phase

def answer? : Phase → Option Answer
  | finished answer => some answer
  | _ => none

def observer? : Phase → Option Observer
  | watching _ observer => some observer
  | _ => none

def isReplied : Phase → Bool
  | replied _ _ => true
  | _ => false

/-- The reply reaches the client that waits for it. -/
def receive (reply : Except UpdateError Receipt) : Phase → Phase
  | submitted purpose => .replied purpose reply
  | phase => phase

end Phase

/-- Clients are numbered in the order in which they came. -/
structure System where
  service : ClusterService
  clock : Nat
  /-- The submitted tasks, each with its client. -/
  queue : List (Nat × Task)
  clients : List Phase
  /-- What clients were told beside their answers. -/
  notices : List String

namespace System

def start (service : ClusterService) : System :=
  ⟨service, 0, [], [], []⟩

/-- What becomes of a client whose update failed. -/
def afterFailure (purpose : Purpose) (error : UpdateError) : Phase :=
  match purpose with
  | .update => .finished (.notUpdated error)
  | .clearing | .exclusion _ _ => .finished (.notCoordinated (.update error))

/-- Puts a task into the queue; a closed service takes none. -/
def submit (sys : System) (client : Nat) (purpose : Purpose) (task : Task) : System × Phase :=
  if sys.service.isOpen then
    ({ sys with queue := sys.queue ++ [(client, task)] }, .submitted purpose)
  else (sys, afterFailure purpose .serviceClosed)

/-- What a client does once it observed something. -/
def afterWatch (sys : System) (client : Nat) : Watch → Observed → System × Phase
  | .report, seen => (sys, .finished (.observed seen))
  | .listener, seen => (sys, .finished (.heard seen))
  | .coordination (.effect _), .matched _ => (sys, .finished .done)
  | .coordination (.removal _), .matched _ => sys.submit client .clearing .clear
  | .coordination wait, .timedOut last =>
    (sys, .finished (.notCoordinated (.timedOut (wait.pending last))))
  | .coordination wait, .closed => (sys, .finished (.notCoordinated (.unavailable wait)))

def look (sys : System) (client : Nat) (watch : Watch) (observer : Observer) : System × Phase :=
  match observer.look? sys.service sys.clock with
  | some seen => sys.afterWatch client watch seen
  | none => (sys, .watching watch (observer.afterLook sys.service))

/-- An observer whose time starts now. Instants have no upper bound here, so that every timeout has its deadline;
one that takes a clock past its last instant is not covered. -/
def observer (sys : System) (holds : ClusterState → Bool) (timeout : Option Nat) : Observer :=
  .start holds (timeout.map (sys.clock + ·))

def wait (sys : System) (client : Nat) (wait : Await) (timeout : Nat) : System × Phase :=
  sys.look client (.coordination wait) (sys.observer wait.isOver timeout)

/-- What a client does with the reply to its task. Exclusions count as the task found them. -/
def afterReply (sys : System) (client : Nat) (purpose : Purpose) :
    Except UpdateError Receipt → System × Phase
  | .error error => (sys, afterFailure purpose error)
  | .ok receipt =>
    match purpose with
    | .update => (sys, .finished (.updated receipt.after.version))
    | .clearing => (sys, .finished .done)
    | .exclusion request resolved =>
      let resolved := (request.resolve receipt.before).toOption.getD resolved
      sys.wait client (.effect resolved) request.timeout

/-- Exclusions that are all there already need no task. -/
def beginExclusion (sys : System) (client : Nat) (request : ExclusionRequest) : System × Phase :=
  if !request.isValid then (sys, .finished (.notCoordinated (.invalid .notOneKind)))
  else
    let sys := { sys with notices := sys.notices ++ request.deprecation?.toList }
    match request.resolve sys.service.state with
    | .error fault => (sys, .finished (.notCoordinated (.invalid fault)))
    | .ok resolved =>
      let existing := sys.service.state.coordination.exclusions
      if resolved.subset existing then (sys, .finished .done)
      else
        match request.excess? existing resolved sys.service.settings.maxVotingExclusions with
        | some excess => (sys, .finished (.notCoordinated (.excess excess)))
        | none => sys.submit client (.exclusion request resolved) (.exclude request)

def beginClearing (sys : System) (client : Nat) (request : ClearRequest) : System × Phase :=
  let exclusions := sys.service.state.coordination.exclusions
  if exclusions.isEmpty then (sys, .finished .done)
  else if request.waitForRemoval then sys.wait client (.removal exclusions) request.timeout
  else sys.submit client .clearing .clear

def set (sys : System) (key value : String) : System × Phase :=
  match sys.service.board.update key value with
  | .ok board => ({ sys with service.board := board }, .finished .done)
  | .error error => (sys, .finished (.notSet error))

def begin (sys : System) (client : Nat) : Call → System × Phase
  | .exclude request => sys.beginExclusion client request
  | .clear request => sys.beginClearing client request
  | .update task => sys.submit client .update task
  | .observe holds timeout => sys.look client .report (sys.observer holds timeout)
  | .listen holds timeout => (sys, .watching .listener (sys.observer holds timeout))
  | .stall stalled => ({ sys with service := sys.service.stall stalled }, .finished .done)
  | .shutdown => ({ sys with service := sys.service.shutdown }, .finished .done)
  | .set key value => sys.set key value

/-- Runs a client in this phase until it has to wait. -/
def proceed (sys : System) (client : Nat) : Phase → System × Phase
  | .ready call => sys.begin client call
  | .replied purpose reply => sys.afterReply client purpose reply
  | .watching watch observer => sys.look client watch observer
  | phase => (sys, phase)

end System

inductive Event
  /-- A new client comes. -/
  | call (call : Call)
  /-- A client gets to run. -/
  | poll (client : Nat)
  /-- The first task in the queue is applied. -/
  | apply
  | tick (milliseconds : Nat)

namespace System

def step (sys : System) : Event → System
  | .call call => { sys with clients := sys.clients ++ [.ready call] }
  | .poll client =>
    match sys.clients[client]? with
    | none => sys
    | some phase =>
      let (next, phase) := sys.proceed client phase
      { next with clients := next.clients.set client phase }
  | .apply =>
    match sys.queue with
    | [] => sys
    | (client, task) :: queue =>
      let (service, reply) := sys.service.apply task
      { sys with service, queue, clients := sys.clients.modify client (Phase.receive reply) }
  | .tick milliseconds => { sys with clock := sys.clock + milliseconds }

def run (sys : System) (events : List Event) : System :=
  events.foldl step sys

def answer? (sys : System) (client : Nat) : Option Answer :=
  sys.clients[client]?.bind Phase.answer?

/-- How many observers are subscribed to the service. -/
def listenerCount (sys : System) : Nat :=
  if sys.service.isOpen then sys.clients.countP fun phase => phase.observer?.isSome else 0

end System

end ClusterControl
