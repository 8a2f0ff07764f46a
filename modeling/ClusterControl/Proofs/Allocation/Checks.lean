import ClusterControl.Proofs.Allocation.Reach
import ClusterControl.Proofs.Routing.Construction

/-!
The balanced allocator with its checks. Here an unassigned copy is the only one that can be assigned and a started
one the only one that can begin to move, and the copy must be in the table with the very value that it is replaced
for; a check that fails ends the run. No check fails: the lists that the passes work on were drawn up before, but
what the turns before replaced are other copies.
-/

namespace ClusterControl

namespace Balance

namespace Checked

/-- Lets a copy of the table make a transition, if the table has that value of the copy and the value can make it. -/
def replace (r : Round) (c : ShardCopy) (e : Transition) : Option Round :=
  if r.routing.Has c then (c.transition? e).map r.update else none

def moveCopy (chain : Chain) (r : Round) (c : ShardCopy) : Option Round :=
  match c.node.bind r.directory.find? with
  | none => some r
  | some node =>
    if !(chain.canRemain r c node).isNo then some r
    else
      let target := (nodesByWeight r c.shard.index).find? fun w =>
        w.node.id ≠ node.id && (chain.canAllocate r c w.node).isYes
      match target with
      | some w => replace r c (.relocate w.node.id)
      | none => some r

def moveCopies (chain : Chain) (r : Round) : Option Round :=
  (r.routing.toList.filter ShardCopy.isStarted).foldlM (moveCopy chain) r

def assignCopy (chain : Chain) (r : Round) (c : ShardCopy) : Option Round :=
  match (nodesByWeight r c.shard.index).find? fun w => (chain.canAllocate r c w.node).isYes with
  | some w => replace r c (.assign w.node.id)
  | none => some r

def assignCopies (chain : Chain) (r : Round) : Option Round :=
  r.routing.unassigned.foldlM (assignCopy chain) r

def rebalanceIndex (chain : Chain) (step : Float) (index : String) : Nat → Round → Option Round
  | 0, r => some r
  | moves + 1, r =>
    match relocation? chain r index step with
    | some (c, node) => (replace r c (.relocate node.id)).bind (rebalanceIndex chain step index moves)
    | none => some r

def rebalance (chain : Chain) (r : Round) : Option Round :=
  if !(chain.canRebalance r).isYes then some r
  else match shares? r.settings.balance with
    | none => some r
    | some (shardShare, indexShare) =>
      r.routing.indexNames.toList.foldlM
        (fun r index =>
          rebalanceIndex chain (shardShare + indexShare) index (r.routing.indexCopies index).length r)
        r

def allocate (chain : Chain) (r : Round) : Option Round :=
  if r.directory.dataNodes.isEmpty then some r
  else (moveCopies chain r).bind fun moved => (assignCopies chain moved).bind (rebalance chain)

variable {chain : Chain} {r next : Round} {c : ShardCopy} {l log : List ShardCopy} {id : NodeId}

theorem replace_assign (hc : r.routing.Has c) (hs : c.isUnassigned = true) :
    replace r c (.assign id) = some (r.update (c.assign id)) := by
  rw [replace, if_pos hc, ShardCopy.transition?, if_pos hs, Option.map_some]

theorem replace_relocate (hc : r.routing.Has c) (hs : c.isStarted = true) :
    replace r c (.relocate id) = some (r.update (c.relocate id)) := by
  rw [replace, if_pos hc, ShardCopy.transition?, if_pos hs, Option.map_some]

theorem moveCopy_eq (chain : Chain) (hc : r.routing.Has c) (hs : c.isStarted = true) :
    moveCopy chain r c = some (Balance.moveCopy chain r c) := by
  unfold moveCopy Balance.moveCopy
  cases c.node.bind r.directory.find? with
  | none => rfl
  | some node =>
      dsimp only
      split
      case isTrue => rfl
      case isFalse =>
        generalize List.find? _ _ = target
        cases target with
        | none => rfl
        | some w => exact replace_relocate hc hs

theorem assignCopy_eq (chain : Chain) (hc : r.routing.Has c) (hs : c.isUnassigned = true) :
    assignCopy chain r c = some (Balance.assignCopy chain r c) := by
  unfold assignCopy Balance.assignCopy
  generalize List.find? _ _ = target
  cases target with
  | none => rfl
  | some w => exact replace_assign hc hs

theorem foldlM_of_pass {turn : Round → ShardCopy → Option ShardCopy → Prop} {f : Round → ShardCopy → Option Round}
    (hf : ∀ r c d, turn r c d → f r c = some (d.elim r r.update)) (h : Pass turn l r log next) :
    l.foldlM f r = some next := by
  induction h with
  | nil => rfl
  | stays _ ht _ ih | replaced _ ht _ ih =>
      rw [List.foldlM_cons, hf _ _ _ ht]
      exact ih

/-- A pass over different copies of the table meets each of them as it was listed. -/
theorem foldlM_eq (turn : Round → ShardCopy → Option ShardCopy → Prop) {f : Round → ShardCopy → Round}
    {g : Round → ShardCopy → Option Round} (hw : r.routing.WellFormed)
    (hl : l.Pairwise fun c d => c.sameCopy d = false) (hh : ∀ c ∈ l, r.routing.Has c)
    (hg : ∀ r : Round, ∀ c ∈ l, r.routing.Has c → g r c = some (f r c))
    (hf : ∀ r : Round, ∀ c ∈ l, turn r c none ∧ f r c = r ∨
      ∃ d, turn r c (some d) ∧ c.sameCopy d = true ∧ f r c = r.update d) :
    l.foldlM g r = some (l.foldl f r) := by
  have hpass : ∃ log, Pass (fun r c d => g r c = some (d.elim r r.update)) l r log (l.foldl f r) := by
    refine Pass.of_foldl hw hl hh fun r c hm hc => ?_
    have hchecked := hg r c hm hc
    rcases hf r c hm with ⟨_, he⟩ | ⟨d, _, hs, he⟩
    · rw [he] at hchecked
      exact .inl ⟨hchecked, he⟩
    · rw [he] at hchecked
      exact .inr ⟨d, hchecked, hs, he⟩
  obtain ⟨log, h⟩ := hpass
  exact foldlM_of_pass (fun _ _ _ ht => ht) h

theorem moveCopies_eq (chain : Chain) (hw : r.routing.WellFormed) :
    moveCopies chain r = some (Balance.moveCopies chain r) := by
  refine foldlM_eq (MoveTurn chain) hw (hw.pairwise_toList.filter _) ?_ ?_ ?_
  · intro c hc
    exact hw.has_of_mem_toList (List.mem_filter.1 hc).1
  · intro r c hm hc
    exact moveCopy_eq chain hc (List.mem_filter.1 hm).2
  · intro r c hm
    exact moveCopy_turn chain r (List.mem_filter.1 hm).2

theorem assignCopies_eq (chain : Chain) (hw : r.routing.WellFormed) :
    assignCopies chain r = some (Balance.assignCopies chain r) := by
  refine foldlM_eq (PlaceTurn chain) hw hw.pairwise_unassigned ?_ ?_ ?_
  · intro c hc
    exact hw.has_of_mem_toList (RoutingTable.mem_unassigned.1 hc).1
  · intro r c hm hc
    exact assignCopy_eq chain hc (RoutingTable.mem_unassigned.1 hm).2
  · intro r c hm
    exact assignCopy_turn chain r (RoutingTable.mem_unassigned.1 hm).2

theorem rebalanceIndex_eq (chain : Chain) (step : Float) (index : String) (moves : Nat) (hw : r.routing.WellFormed) :
    rebalanceIndex chain step index moves r = some (Balance.rebalanceIndex chain step index moves r) := by
  induction moves generalizing r with
  | zero => rfl
  | succ moves ih =>
      rw [rebalanceIndex, Balance.rebalanceIndex]
      cases h : relocation? chain r index step with
      | none => rfl
      | some found =>
          obtain ⟨hc, hs⟩ := shift_of_relocation? hw h
          dsimp only
          rw [replace_relocate hc hs.isStarted, Option.bind_some]
          exact ih (by simpa using hw.update _)

theorem foldlM_rebalanceIndex_eq (chain : Chain) (step : Float) (names : List String) (hw : r.routing.WellFormed) :
    names.foldlM (fun r index => rebalanceIndex chain step index (r.routing.indexCopies index).length r) r =
      some (names.foldl (fun r index =>
        Balance.rebalanceIndex chain step index (r.routing.indexCopies index).length r) r) := by
  induction names generalizing r with
  | nil => rfl
  | cons index names ih =>
      rw [List.foldlM_cons, rebalanceIndex_eq chain step index _ hw]
      exact ih (rebalanceIndex_wellFormed chain step index _ hw)

theorem rebalance_eq (chain : Chain) (hw : r.routing.WellFormed) :
    rebalance chain r = some (Balance.rebalance chain r) := by
  unfold rebalance Balance.rebalance
  split
  case isTrue => rfl
  case isFalse =>
    cases shares? r.settings.balance with
    | none => rfl
    | some shares => exact foldlM_rebalanceIndex_eq chain _ _ hw

theorem allocate_eq (chain : Chain) (hw : r.routing.WellFormed) :
    allocate chain r = some (Balance.allocate chain r) := by
  have hmoved := moveCopies_wellFormed chain hw
  unfold allocate Balance.allocate
  split
  case isTrue => rfl
  case isFalse =>
    rw [moveCopies_eq chain hw, Option.bind_some, assignCopies_eq chain hmoved, Option.bind_some,
      rebalance_eq chain (assignCopies_wellFormed chain hmoved)]

end Checked

end Balance

namespace AllocationService

variable {service : AllocationService} {chain : Chain} {settings : Settings} {s : ClusterState}

/-- The reroute by the balanced allocator with its checks. -/
def checkedReroute (service : AllocationService) (settings : Settings) (s : ClusterState) : Option Rerouted :=
  let (routing, synced) := s.syncRouting
  let s := if synced then { s with routing } else s
  (Balance.Checked.allocate service.chain (.start s settings.allocation service.info)).map fun round =>
    if synced || round.changed then .replaced { s with routing := round.routing } else .unchanged

theorem checkedReroute_eq (hb : service.Balances chain settings) (hw : s.routing.WellFormed) (hf : s.routing.Fits) :
    ∃ rerouted, service.reroute settings s = .ok rerouted ∧ service.checkedReroute settings s = some rerouted := by
  have hsettled := ClusterState.aligned_settled_wellFormed hw hf
  have hstart : (if s.syncRouting.2 then { s with routing := s.syncRouting.1 } else s).routing.WellFormed := by
    split
    · exact hsettled
    · exact hw
  have hchecked := Balance.Checked.allocate_eq service.chain
    (r := .start (if s.syncRouting.2 then { s with routing := s.syncRouting.1 } else s) settings.allocation service.info)
    hstart
  simp only [reroute, hb.allocator, checkedReroute, hchecked, Option.map_some]
  exact ⟨_, rfl, rfl⟩

end AllocationService

end ClusterControl
