import ClusterControl.Proofs.Allocation.Run

/-!
The allocator does nothing that the rules do not call for, and leaves nothing that they do. Whatever the rules
answer, it takes one turn with every started copy and then with every copy that is unassigned by then: a copy
stays only where it may or where no node takes it, and else it goes to the lightest node that does. Only then
copies move for balance, each to a node that takes it. No copy is replaced twice, and the copies that receive
their data are left alone.
-/

namespace ClusterControl

namespace Balance

theorem allocate_refines_rules (chain : Chain) (r : Round) (hw : r.routing.WellFormed) :
    ∃ moved placed moves placements shifts,
      Phases chain r moved placed (allocate chain r) moves placements shifts ∧
      (moves ++ placements ++ shifts).Pairwise (fun c d => c.sameCopy d = false) ∧
      ∀ c, r.routing.Has c → c.isRecovering = true →
        (allocate chain r).routing.Has c ∧ ∀ d ∈ moves ++ placements ++ shifts, d.sameCopy c = false := by
  obtain ⟨moved, placed, moves, placements, shifts, h⟩ := allocate_phases chain hw
  refine ⟨moved, placed, moves, placements, shifts, h, h.trail.pairwise hw, ?_⟩
  intro c hc hr
  exact h.trail.recovering hw hc hr

/-- A primary on its way from one node to another. -/
def underway : ShardCopy :=
  ⟨⟨"logs", 0⟩, 0, true, .relocating, some "d1", some "d2", none, none⟩

/-- A new index and two nodes, of which only the second is a data node. -/
def emptying : ClusterState :=
  let nodes := (Directory.empty.insert (Node.bare "d1" "d1")).insert (ClusterState.dataNode "d2")
  .withIndex nodes ⟨"logs", 3, 0, .initial⟩

/-- A shard that is still on that node. -/
def lingering : ShardCopy :=
  ⟨⟨"logs", 1⟩, 0, true, .started, some "d1", none, none, none⟩

/-- The node is to be emptied: one shard is on its way, one is still there, and the third is on no node yet. -/
def withUnderway : Round :=
  let filters := { AllocationFilters.empty with excluded := ⟨Dictionary.put .empty "_id" ["d1"]⟩ }
  .start { emptying with routing := (emptying.aligned.update underway).update lingering }
    { Settings.initial.allocation with filters } .empty

/-- What is still there moves and what is on no node is placed, and what is on its way is left alone. -/
theorem underway_left_alone :
    withUnderway.routing.WellFormed ∧ withUnderway.routing.Has underway ∧ underway.isRecovering = true ∧
      (allocate Rules.builtin withUnderway).routing.Has underway ∧
      ∃ moved placed moves placements shifts,
        Phases Rules.builtin withUnderway moved placed (allocate Rules.builtin withUnderway) moves placements shifts ∧
        ((moves ++ placements ++ shifts).Pairwise fun c d => c.sameCopy d = false) ∧
        (moves ++ placements ++ shifts).Perm
          [lingering.relocate "d2",
            ⟨⟨"logs", 2⟩, 0, true, .initializing, some "d2", none, some .emptyStore, some (.fresh .indexCreated)⟩] := by
  have hnew : emptying.aligned.WellFormed := ClusterState.withIndex_wellFormed _ _
  have hw : withUnderway.routing.WellFormed := (hnew.update underway).update lingering
  have hc : withUnderway.routing.Has underway := by decide
  obtain ⟨moved, placed, moves, placements, shifts, hphases, honce, hleft⟩ :=
    allocate_refines_rules Rules.builtin withUnderway hw
  have hrenewed : withUnderway.routing.renewed (allocate Rules.builtin withUnderway).routing =
      [lingering.relocate "d2",
        ⟨⟨"logs", 2⟩, 0, true, .initializing, some "d2", none, some .emptyStore, some (.fresh .indexCreated)⟩] := by
    decide +kernel
  refine ⟨hw, hc, rfl, (hleft underway hc rfl).1, moved, placed, moves, placements, shifts, hphases, honce, ?_⟩
  rw [← hrenewed]
  exact (hphases.trail.renewed_perm hw).symm

end Balance

end ClusterControl
