import ClusterControl.Cluster.Task
import ClusterControl.Settings.Update

/-!
The cluster service publishes one state after the other: each applied task gives the next, with the
next version. The accepted voting configuration is committed with it, unless commits are stalled.
-/

namespace ClusterControl

/-- Adjusts the state that a task computed, under the settings of the moment. -/
abbrev Reconciler := Settings → ClusterState → ClusterState

structure ClusterService where
  state : ClusterState
  isOpen : Bool
  stalled : Bool
  board : SettingsBoard
  reconcilers : List Reconciler
  /-- How many states were published after the first. -/
  published : Nat

/-- An applied task: the state it saw and the one that was published. -/
structure Receipt where
  before : ClusterState
  after : ClusterState

namespace ClusterService

def start (state : ClusterState) (settings : Settings) (reconcilers : List Reconciler) :
    ClusterService :=
  ⟨state, true, false, .post settings, reconcilers, 0⟩

def settings (service : ClusterService) : Settings :=
  service.board.current

/-- The state to publish after `current`, where a task computed `next`. Version and commit follow
from `current` and the accepted configuration, whatever the task wrote there. -/
def succeed (service : ClusterService) (current next : ClusterState) : ClusterState :=
  let next := service.reconcilers.foldl (fun s reconcile => reconcile service.settings s) next
  { next with
    version := current.version + 1
    coordination.committed :=
      if service.stalled then current.coordination.committed else next.coordination.accepted }

def publish (service : ClusterService) (state : ClusterState) : ClusterService :=
  { service with state, published := service.published + 1 }

/-- What a task makes of the state at hand. A closed service runs none. -/
def compute (service : ClusterService) (task : Task) : Except UpdateError ClusterState :=
  if !service.isOpen then .error .serviceClosed
  else
    match task.run service.settings service.state with
    | .error fault => .error (.taskFailed task.source fault)
    | .ok next => .ok next

/-- Publishes what a task computed, unless the service was closed meanwhile. -/
def conclude (service : ClusterService) :
    Except UpdateError ClusterState → ClusterService × Except UpdateError Receipt
  | .error error => (service, .error error)
  | .ok next =>
    if !service.isOpen then (service, .error .serviceClosed)
    else
      let after := service.succeed service.state next
      (service.publish after, .ok ⟨service.state, after⟩)

/-- A closed service applies nothing, and a task that fails publishes nothing. -/
def apply (service : ClusterService) (task : Task) :
    ClusterService × Except UpdateError Receipt :=
  service.conclude (service.compute task)

def stall (service : ClusterService) (stalled : Bool) : ClusterService :=
  { service with stalled }

def shutdown (service : ClusterService) : ClusterService :=
  { service with isOpen := false }

end ClusterService

end ClusterControl
