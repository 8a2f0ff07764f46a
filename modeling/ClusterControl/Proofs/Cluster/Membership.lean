import ClusterControl.Allocation.Service
import ClusterControl.Cluster.Service
import ClusterControl.Proofs.Topology.Directory
import ClusterControl.Proofs.Voting.Configuration
import Mathlib.Tactic.ByContra
import Mathlib.Tactic.Tauto

/-!
Changes of membership: nodes join and leave, exclusions are added and cleared. What each of them
does to the directory, to the accepted configuration and to the exclusions, and that reconciling the
routing leaves all three alone.
-/

namespace ClusterControl

inductive Change
  | join (node : Node)
  | leave (id : NodeId)
  | exclude (request : ExclusionRequest)
  | clear

namespace Change

def task : Change → Task
  | join node => .join node
  | leave id => .leave id
  | exclude request => .exclude request
  | clear => .clear

/-- What the task of a change computes from a state that it accepts. -/
inductive Makes (settings : Settings) (s : ClusterState) : Change → ClusterState → Prop
  | join (node : Node) : Makes settings s (.join node) (s.join node)
  | leave (id : NodeId) (h : s.directory.contains id = true) : Makes settings s (.leave id) (s.leave id)
  | exclude (request : ExclusionRequest) (resolved : ExclusionSet) (hr : request.resolve s = .ok resolved)
      (hs : (s.coordination.exclusions.union resolved).size ≤ settings.maxVotingExclusions) :
      Makes settings s (.exclude request) (s.withExclusions (s.coordination.exclusions.union resolved))
  | clear : Makes settings s .clear (s.withExclusions .empty)

theorem makes_of_run {change : Change} {settings : Settings} {s next : ClusterState}
    (h : change.task.run settings s = .ok next) : Makes settings s change next := by
  cases change with
  | join node =>
      cases h
      exact .join node
  | leave id =>
      simp only [task, Task.leave] at h
      split at h
      case isTrue hc =>
        cases h
        exact .leave id hc
      case isFalse => cases h
  | exclude request =>
      simp only [task, Task.exclude] at h
      split at h
      case h_1 => cases h
      case h_2 resolved hr =>
        simp only [ExclusionRequest.excess?] at h
        split at h
        case h_1 => cases h
        case h_2 he =>
          cases h
          refine .exclude request resolved hr ?_
          by_contra hs
          simp [hs] at he
  | clear =>
      cases h
      exact .clear

theorem Makes.run {change : Change} {settings : Settings} {s next : ClusterState}
    (h : change.Makes settings s next) : change.task.run settings s = .ok next := by
  cases h with
  | join | clear => rfl
  | leave id hc => simp only [task, Task.leave, hc, if_true]
  | exclude request resolved hr hs =>
      simp only [task, Task.exclude, hr, ExclusionRequest.excess?, hs, if_true]

end Change

namespace ClusterState

variable {s : ClusterState} {node other : Node} {id : NodeId} {exclusions : ExclusionSet}

@[simp] theorem join_directory : (s.join node).directory = s.directory.insert node := rfl

@[simp] theorem join_exclusions : (s.join node).coordination.exclusions = s.coordination.exclusions := by
  simp only [join]
  split <;> rfl

theorem join_accepted : (s.join node).coordination.accepted.contains id = true ↔
    s.coordination.accepted.contains id = true ∨ id = node.id ∧ node.isMasterEligible = true ∧
      ∀ e ∈ s.coordination.exclusions, e.selects node = false := by
  have hv : (node.isMasterEligible && !s.coordination.exclusions.toList.any (·.selects node)) = true ↔
      node.isMasterEligible = true ∧ ∀ e ∈ s.coordination.exclusions, e.selects node = false := by
    simp [SortedBy.mem_iff]
  simp only [join]
  split
  case isTrue h =>
    rw [VotingConfiguration.contains_insert]
    have := hv.1 h
    tauto
  case isFalse h =>
    have := mt hv.2 h
    tauto

@[simp] theorem leave_directory : (s.leave id).directory = s.directory.erase id := rfl

@[simp] theorem leave_exclusions : (s.leave id).coordination.exclusions = s.coordination.exclusions := rfl

theorem leave_accepted {x : NodeId} : (s.leave id).coordination.accepted.contains x = true ↔
    s.coordination.accepted.contains x = true ∧ x ≠ id :=
  VotingConfiguration.contains_without

@[simp] theorem withExclusions_directory : (s.withExclusions exclusions).directory = s.directory := rfl

@[simp] theorem withExclusions_exclusions :
    (s.withExclusions exclusions).coordination.exclusions = exclusions := rfl

theorem withExclusions_accepted : (s.withExclusions exclusions).coordination.accepted.contains id = true ↔
    ∃ node ∈ s.directory.toList, node.id = id ∧ node.isMasterEligible = true ∧
      ∀ e ∈ exclusions, e.nodeId ≠ some id :=
  VotingConfiguration.contains_ofLiveNodes

end ClusterState

namespace Reconciler

/-- A reconciler that leaves nodes, configurations and exclusions as the task made them. -/
def KeepsMembership (reconcile : Reconciler) : Prop :=
  ∀ settings s, (reconcile settings s).directory = s.directory ∧
    (reconcile settings s).coordination = s.coordination

theorem foldl_keeps {reconcilers : List Reconciler} (h : ∀ r ∈ reconcilers, r.KeepsMembership)
    (settings : Settings) (s : ClusterState) :
    (reconcilers.foldl (fun s reconcile => reconcile settings s) s).directory = s.directory ∧
      (reconcilers.foldl (fun s reconcile => reconcile settings s) s).coordination = s.coordination := by
  induction reconcilers generalizing s with
  | nil => exact ⟨rfl, rfl⟩
  | cons r rs ih =>
      obtain ⟨hd, hc⟩ := h r List.mem_cons_self settings s
      obtain ⟨hd', hc'⟩ := ih (fun r hr => h r (List.mem_cons_of_mem _ hr)) (r settings s)
      exact ⟨hd'.trans hd, hc'.trans hc⟩

end Reconciler

namespace AllocationService

theorem reroute_keeps {service : AllocationService} {settings : Settings} {s : ClusterState}
    {rerouted : Rerouted} (h : service.reroute settings s = .ok rerouted) :
    (rerouted.stateFrom s).directory = s.directory ∧
      (rerouted.stateFrom s).coordination = s.coordination := by
  simp only [reroute, bind, Except.bind, pure, Except.pure] at h
  split at h
  case h_1 => cases h
  case h_2 =>
    cases h
    cases s.syncRouting.2 with
    | true => exact ⟨rfl, rfl⟩
    | false =>
        simp only [Bool.false_or, Bool.false_eq_true, if_false]
        split <;> exact ⟨rfl, rfl⟩

/-- Bringing the routing in line with a state changes nothing but the routing. -/
theorem reconcile_keepsMembership (service : AllocationService) :
    Reconciler.KeepsMembership service.reconcile := by
  intro settings s
  simp only [reconcile, rerouteOrKeep]
  cases h : service.reroute settings s with
  | error e => exact ⟨rfl, rfl⟩
  | ok rerouted => exact reroute_keeps h

end AllocationService

end ClusterControl
