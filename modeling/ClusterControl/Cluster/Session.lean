import ClusterControl.Cluster.Schedule

/-!
Sessions: calls made one by one, each attended to until it is answered, and labelled calls that run
beside them until their answers are collected.
-/

namespace ClusterControl

structure Session where
  schedule : Schedule
  /-- The clients of the labelled calls whose answers are still to be collected. -/
  running : Dictionary String Nat

namespace Session

def start (service : ClusterService) : Session :=
  ⟨.start (.start service), .empty⟩

def system (s : Session) : System :=
  s.schedule.system

def call (s : Session) (c : Call) : Session × Option Answer :=
  let (schedule, answer) := s.schedule.call c
  ({ s with schedule }, answer)

def enter (s : Session) (label : String) (c : Call) : Session :=
  ⟨s.schedule.spawn c, s.running.put label s.system.clients.length⟩

/-- Starts labelled calls together. A label that is used again stands for the later call. -/
def spawn (s : Session) (calls : List (String × Call)) : Session :=
  let s := calls.foldl (fun s (label, c) => s.enter label c) s
  { s with schedule := s.schedule.settle }

def advance (s : Session) (milliseconds : Nat) : Session :=
  { s with schedule := s.schedule.advance milliseconds }

/-- Waits for a labelled call; there may be none of that label. -/
def join? (s : Session) (label : String) : Option (Session × Option Answer) :=
  (s.running.get? label).map fun client =>
    let (schedule, answer) := s.schedule.join client
    (⟨schedule, s.running.erase label⟩, answer)

/-- Takes the answers of the labelled calls that are finished. -/
def collect (s : Session) : Session × List (String × Answer) :=
  let answer? (entry : String × Nat) := s.system.answer? entry.2
  ({ s with running := s.running.filter fun entry => (answer? entry).isNone },
    s.running.toList.filterMap fun entry => (answer? entry).map fun answer => (entry.1, answer))

end Session

end ClusterControl
