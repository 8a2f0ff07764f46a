import ClusterControl.Cluster.Service

/-!
Observers wait for a condition on the state. One that has not looked at the newest state looks at
it first; only then does it give up, because the service closed or the time is over.
-/

namespace ClusterControl

inductive Observed
  | matched (state : ClusterState)
  | timedOut (last : ClusterState)
  | closed

structure Observer where
  holds : ClusterState → Bool
  deadline : Option Nat
  /-- The publication looked at last. -/
  seen : Option Nat

namespace Observer

def start (holds : ClusterState → Bool) (deadline : Option Nat) : Observer :=
  ⟨holds, deadline, none⟩

def isLate (o : Observer) (now : Nat) : Bool :=
  o.deadline.any (· ≤ now)

/-- Whether the newest state is still to be looked at. -/
def isBehind (o : Observer) (service : ClusterService) : Bool :=
  o.seen ≠ some service.published

/-- What is observed at this time, if anything is. -/
def look? (o : Observer) (service : ClusterService) (now : Nat) : Option Observed :=
  if o.isBehind service && o.holds service.state then some (.matched service.state)
  else if !service.isOpen then some .closed
  else if o.isLate now then some (.timedOut service.state)
  else none

def afterLook (o : Observer) (service : ClusterService) : Observer :=
  { o with seen := some service.published }

end Observer

end ClusterControl
