import ClusterControl.Settings.Basic
import ClusterControl.Voting.Request

/-!
Tasks compute the next state of a cluster from the current one: nodes join and leave, exclusions
are added and cleared. A task sees the state and the settings of the moment it is applied.
-/

namespace ClusterControl

/-- Why a task refused the state it was applied to. -/
inductive TaskFault
  | unknownNode (id : NodeId)
  | request (fault : RequestFault)
  | excess (excess : Excess)
  | rejected (reason : String)
  deriving DecidableEq, Repr

def TaskFault.message : TaskFault → String
  | unknownNode id => s!"unknown node [{id}]"
  | request fault => fault.message
  | excess e => e.message
  | rejected reason => reason

/-- Why an update did not happen. -/
inductive UpdateError
  | taskFailed (source : String) (fault : TaskFault)
  | serviceClosed
  deriving DecidableEq, Repr

def UpdateError.message : UpdateError → String
  | taskFailed source fault =>
    s!"failed to execute cluster state update task [{source}]: " ++ fault.message
  | serviceClosed => "cluster service is closed"

structure Task where
  source : String
  run : Settings → ClusterState → Except TaskFault ClusterState

namespace ClusterState

/-- A node that votes unless it is excluded joins the accepted configuration. -/
def join (s : ClusterState) (node : Node) : ClusterState :=
  let c := s.coordination
  let votes := node.isMasterEligible && !c.exclusions.toList.any (·.selects node)
  { s with
    directory := s.directory.insert node
    coordination := if votes then { c with accepted := c.accepted.insert node.id } else c }

def leave (s : ClusterState) (id : NodeId) : ClusterState :=
  { s with
    directory := s.directory.erase id
    coordination.accepted := s.coordination.accepted.without [id] }

/-- Sets the exclusions and accepts the configuration that they leave. -/
def withExclusions (s : ClusterState) (exclusions : ExclusionSet) : ClusterState :=
  { s with
    coordination.exclusions := exclusions
    coordination.accepted := .ofLiveNodes s.directory exclusions.toList }

end ClusterState

namespace Task

/-- A task that cannot fail. -/
def always (source : String) (change : ClusterState → ClusterState) : Task where
  source
  run _ s := .ok (change s)

def join (node : Node) : Task :=
  always "node-join" (·.join node)

def leave (id : NodeId) : Task where
  source := "node-left"
  run _ s := if s.directory.contains id then .ok (s.leave id) else .error (.unknownNode id)

/-- Adds what the request asks for in the state at hand, if the settings at hand allow as many. -/
def exclude (r : ExclusionRequest) : Task where
  source := "add-voting-config-exclusions"
  run settings s :=
    match r.resolve s with
    | .error fault => .error (.request fault)
    | .ok resolved =>
      match r.excess? s.coordination.exclusions resolved settings.maxVotingExclusions with
      | some excess => .error (.excess excess)
      | none => .ok (s.withExclusions (s.coordination.exclusions.union resolved))

def clear : Task :=
  always "clear-voting-config-exclusions" (·.withExclusions .empty)

def reject (source reason : String) : Task where
  source
  run _ _ := .error (.rejected reason)

end Task

end ClusterControl
