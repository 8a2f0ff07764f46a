import ClusterControl.Cluster.Observer

/-!
What clients ask of a cluster, and what they are answered.
-/

namespace ClusterControl

namespace ClusterState

/-- The exclusions whose nodes are still in the committed configuration. -/
def stillVoting (s : ClusterState) (exclusions : ExclusionSet) : ExclusionSet :=
  exclusions.filter fun e => e.nodeId.any s.coordination.committed.contains

/-- The exclusions whose nodes are still there. -/
def stillPresent (s : ClusterState) (exclusions : ExclusionSet) : ExclusionSet :=
  exclusions.filter fun e => e.isPresentIn s.directory

end ClusterState

/-- What a change of the exclusions waits for: that those added take effect, or that the nodes of
those to be cleared are gone. -/
inductive Await
  | effect (exclusions : ExclusionSet)
  | removal (exclusions : ExclusionSet)
  deriving DecidableEq

namespace Await

/-- What keeps the wait from ending in this state. -/
def pending (s : ClusterState) : Await → Await
  | effect exclusions => .effect (s.stillVoting exclusions)
  | removal exclusions => .removal (s.stillPresent exclusions)

def exclusions : Await → ExclusionSet
  | effect exclusions => exclusions
  | removal exclusions => exclusions

def isOver (wait : Await) (s : ClusterState) : Bool :=
  (wait.pending s).exclusions.isEmpty

def render : Await → String
  | effect exclusions =>
    "voting config exclusions " ++ Exclusion.renderList exclusions.toList ++ " to take effect"
  | removal exclusions => "removal of nodes " ++ Exclusion.renderList exclusions.toList

/-- The text for a wait that took too long, where `wait` holds what is left of it. -/
def lateMessage (wait : Await) : String :=
  match wait with
  | effect _ => "timed out waiting for " ++ wait.render
  | removal exclusions =>
    "timed out waiting for removal of nodes; if nodes should not be removed, set " ++
      "waitForRemoval to false. " ++ Exclusion.renderList exclusions.toList

end Await

/-- Why the exclusions were not changed, or not in time. -/
inductive CoordinationError
  | invalid (fault : RequestFault)
  | excess (excess : Excess)
  | timedOut (pending : Await)
  | unavailable (wait : Await)
  | update (error : UpdateError)
  deriving DecidableEq

def CoordinationError.message : CoordinationError → String
  | invalid fault => fault.message
  | excess e => e.message
  | timedOut pending => pending.lateMessage
  | unavailable wait => "cluster service closed while waiting for " ++ wait.render
  | update error => error.message

/-- What a client may ask for. -/
inductive Call
  | exclude (request : ExclusionRequest)
  | clear (request : ClearRequest)
  | update (task : Task)
  | observe (holds : ClusterState → Bool) (timeout : Option Nat)
  /-- As `observe`, through a listener that looks for itself later on. -/
  | listen (holds : ClusterState → Bool) (timeout : Option Nat)
  | stall (stalled : Bool)
  | shutdown
  | set (key value : String)

inductive Answer
  | done
  | updated (version : Nat)
  | observed (seen : Observed)
  | heard (seen : Observed)
  | notUpdated (error : UpdateError)
  | notCoordinated (error : CoordinationError)
  | notSet (error : SettingError)

end ClusterControl
