import ClusterControl.Proofs.Cluster.Turn
import ClusterControl.Proofs.Ordered.Sets

/-!
What it means that a wait is over, and what becomes of a client that looks or submits.
-/

namespace ClusterControl

namespace Await

variable {s : ClusterState} {exclusions : ExclusionSet}

theorem effect_isOver : (effect exclusions).isOver s = true ↔
    ∀ e ∈ exclusions, ∀ id ∈ e.nodeId, s.coordination.committed.contains id = false := by
  simp only [isOver, pending, Await.exclusions, ClusterState.stillVoting, SortedBy.isEmpty_filter]
  refine forall₂_congr ?_
  intro e _
  cases h : e.nodeId <;> simp

theorem removal_isOver : (removal exclusions).isOver s = true ↔
    ∀ e ∈ exclusions, e.isPresentIn s.directory = false := by
  simp only [isOver, pending, Await.exclusions, ClusterState.stillPresent, SortedBy.isEmpty_filter]

end Await

namespace Observer

theorem holds_of_matched {o : Observer} {service : ClusterService} {now : Nat} {s : ClusterState}
    (h : o.look? service now = some (.matched s)) : o.holds service.state = true := by
  unfold look? at h
  split at h
  case isTrue hb =>
    rw [Bool.and_eq_true] at hb
    exact hb.2
  case isFalse =>
    split at h
    case isTrue => cases h
    case isFalse => split at h <;> cases h

end Observer

namespace System

variable {sys : System} {client : Nat}

theorem submit_phase (purpose : Purpose) (task : Task) :
    ((sys.submit client purpose task).2 = .submitted purpose ∧
        (sys.submit client purpose task).1.queue = sys.queue ++ [(client, task)]) ∨
      ∃ answer, (sys.submit client purpose task).2 = .finished answer ∧ answer ≠ .done := by
  unfold submit
  split
  case isTrue => exact .inl ⟨rfl, rfl⟩
  case isFalse => exact .inr (afterFailure_finished purpose _)

/-- A client that waits for exclusions to take effect is done only in a state where they have. -/
theorem look_effect (found : ExclusionSet) (o : Observer) :
    (sys.look client (.coordination (.effect found)) o).2 =
        .watching (.coordination (.effect found)) (o.afterLook sys.service) ∨
      ∃ answer, (sys.look client (.coordination (.effect found)) o).2 = .finished answer ∧
        (answer = .done → o.holds sys.service.state = true) := by
  unfold look
  cases h : o.look? sys.service sys.clock with
  | none => exact .inl rfl
  | some seen =>
      refine .inr ?_
      cases seen with
      | matched s => exact ⟨_, rfl, fun _ => Observer.holds_of_matched h⟩
      | timedOut | closed => exact ⟨_, rfl, nofun⟩

/-- A client that waits for nodes to leave submits its task only in a state where they have left. -/
theorem look_removal (exclusions : ExclusionSet) (o : Observer) :
    (sys.look client (.coordination (.removal exclusions)) o).2 =
        .watching (.coordination (.removal exclusions)) (o.afterLook sys.service) ∨
      (∃ answer, (sys.look client (.coordination (.removal exclusions)) o).2 = .finished answer) ∨
      (sys.look client (.coordination (.removal exclusions)) o).2 = .submitted .clearing ∧
        (sys.look client (.coordination (.removal exclusions)) o).1.queue = sys.queue ++ [(client, .clear)] ∧
        o.holds sys.service.state = true := by
  unfold look
  cases h : o.look? sys.service sys.clock with
  | none => exact .inl rfl
  | some seen =>
      refine .inr ?_
      cases seen with
      | timedOut | closed => exact .inl ⟨_, rfl⟩
      | matched s =>
          dsimp only [afterWatch]
          rcases submit_phase .clearing .clear with ⟨hs, hq⟩ | ⟨answer, hs, _⟩
          · exact .inr ⟨hs, hq, Observer.holds_of_matched h⟩
          · exact .inl ⟨answer, hs⟩

end System

end ClusterControl
