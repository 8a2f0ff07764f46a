import ClusterControl.Proofs.Allocation.Attendance
import ClusterControl.Proofs.Allocation.ShardLimits
import ClusterControl.Proofs.Topology.Directory
import Mathlib.Algebra.GroupWithZero.Nat
import Mathlib.Algebra.BigOperators.Group.List.Basic

/-!
Moves off nodes that have too many copies, where the limit of the cluster is all that the rules ask for. A copy that
moves away counts on its node until it has arrived, so a node with too many copies has too many after each move: all
of its started copies are due, and they move one after the other as long as a data node has room for one more.
-/

namespace ClusterControl

namespace RoutingTable

variable {t before after : RoutingTable} {c : ShardCopy} {id : NodeId}

/-- The copies that relocate away from a node, and did not in the table before. -/
def departing (before after : RoutingTable) (id : NodeId) : List ShardCopy :=
  (before.renewed after).filter fun c => c.isRelocating && c.isOn id

theorem length_onOrMovingTo_eq :
    (t.onOrMovingTo id).length = t.toList.countP fun c => c.isOn id || c.isMovingTo id :=
  List.countP_eq_length_filter.symm

end RoutingTable

namespace Round

/-- The limit of the cluster is the only one on shards. -/
structure SoleCap (r : Round) (limit : Nat) : Prop where
  ofCluster : r.settings.totalShardsPerNode = some limit
  ofIndex : ∀ index ∈ r.state.indices, index.settings.totalShardsPerNode = none

/-- Whether a copy is on a node of the directory with more copies than the limit. -/
def isCrowded (r : Round) (limit : Nat) (c : ShardCopy) : Bool :=
  (c.node.bind r.directory.find?).any fun node => limit < (r.routing.onOrMovingTo node.id).length

/-- The started copies that may not stay, in the order of the table. -/
def due (r : Round) (limit : Nat) : List ShardCopy :=
  (r.routing.toList.filter ShardCopy.isStarted).filter (r.isCrowded limit)

/-- How many more copies the data nodes take, all together. -/
def room (r : Round) (limit : Nat) : Nat :=
  (r.directory.dataNodes.map fun node => limit - (r.routing.onOrMovingTo node.id).length).sum

variable {r : Round} {c advanced : ShardCopy} {limit : Nat} {name : String} {id : NodeId} {coming : Bool} {node : Node}

theorem isCrowded_iff : r.isCrowded limit c = true ↔ ∃ node, c.node.bind r.directory.find? = some node ∧
    limit < (r.routing.onOrMovingTo node.id).length := by
  simp only [isCrowded, Option.any_eq_true, decide_eq_true_eq]

theorem isCrowded_on (hc : c.isOn id = true) : r.isCrowded limit c = true ↔
    r.directory.contains id = true ∧ limit < (r.routing.onOrMovingTo id).length := by
  have hn : c.node = some id := of_decide_eq_true hc
  rw [isCrowded_iff, hn, Option.bind_some]
  constructor
  · rintro ⟨node, hfound, hcrowded⟩
    obtain ⟨hm, rfl⟩ := Directory.find?_eq_some.1 hfound
    exact ⟨Directory.contains_iff.2 ⟨node, hm, rfl⟩, hcrowded⟩
  · rintro ⟨hd, hcrowded⟩
    obtain ⟨node, hm, rfl⟩ := Directory.contains_iff.1 hd
    exact ⟨node, Directory.find?_eq_some.2 ⟨hm, rfl⟩, hcrowded⟩

theorem SoleCap.update (h : r.SoleCap limit) : (r.update advanced).SoleCap limit := by
  refine ⟨?_, ?_⟩
  · rw [Round.update_settings]
    exact h.ofCluster
  · rw [Round.update_state]
    exact h.ofIndex

theorem SoleCap.underLimits_iff (h : r.SoleCap limit) : Rules.UnderLimits coming r name id ↔
    Rules.overLimit coming (r.routing.onOrMovingTo id).length limit = false := by
  rw [RoutingTable.length_onOrMovingTo]
  constructor
  · intro hu
    exact hu.ofCluster limit h.ofCluster
  · intro hu
    refine ⟨fun other ho => ?_, fun other ho => ?_⟩
    · obtain ⟨index, hi, hl⟩ := Option.bind_eq_some_iff.1 ho
      rw [h.ofIndex index (SortedBy.find?_eq_some_iff.1 hi).1] at hl
      cases hl
    · obtain rfl := Option.some.inj (h.ofCluster.symm.trans ho)
      exact hu

/-- The limit refuses or allows, and delays nothing. -/
theorem underShardLimits_isYes : (Rules.underShardLimits coming r c node).isYes = true ↔
    (Rules.underShardLimits coming r c node).isNo = false := by
  unfold Rules.underShardLimits Rules.underShardLimits.ofCluster
  dsimp only
  repeat' split
  all_goals simp

theorem SoleCap.canAllocate_iff (h : r.SoleCap limit) :
    (Chain.canAllocate [Rules.shardsLimit] r c node).isYes = true ↔
      (r.routing.onOrMovingTo node.id).length < limit := by
  rw [Chain.canAllocate, Chain.combine_isYes, List.forall_mem_singleton]
  refine underShardLimits_isYes.trans ?_
  rw [Rules.underShardLimits_not_isNo, h.underLimits_iff, Rules.overLimit_coming]

theorem SoleCap.canRemain_iff (h : r.SoleCap limit) :
    (Chain.canRemain [Rules.shardsLimit] r c node).isNo = false ↔
      (r.routing.onOrMovingTo node.id).length ≤ limit := by
  rw [Chain.canRemain, Chain.combine_not_isNo, List.forall_mem_singleton]
  refine Rules.underShardLimits_not_isNo.trans ?_
  rw [h.underLimits_iff, Rules.overLimit_present]

end Round

namespace Balance

variable {r next : Round} {c d e : ShardCopy} {target : Node} {limit : Nat} {id : NodeId} {l log : List ShardCopy}

/-- A started copy of the table is on a node with more copies than the limit, and begins to move to a data node that
has room. -/
structure Leaves (r : Round) (limit : Nat) (c : ShardCopy) (target : Node) : Prop where
  wellFormed : r.routing.WellFormed
  has : r.routing.Has c
  fits : c.Fits
  started : c.isStarted = true
  crowded : r.isCrowded limit c = true
  data : target ∈ r.directory.dataNodes
  room : (r.routing.onOrMovingTo target.id).length < limit

namespace Leaves

variable (h : Leaves r limit c target)
include h

theorem node_ne : c.node ≠ some target.id := by
  intro hn
  have hcrowded := ((Round.isCrowded_on (decide_eq_true hn)).1 h.crowded).2
  have hroom := h.room
  omega

/-- The copy counts on one node more than before, and still on its own. -/
theorem length_onOrMovingTo (id : NodeId) :
    ((r.update (c.relocate target.id)).routing.onOrMovingTo id).length =
      (r.routing.onOrMovingTo id).length + if id = target.id then 1 else 0 := by
  have hstage : c.stage = .started := of_decide_eq_true h.started
  have hstays : c.target = none := by simpa [ShardCopy.isRelocating, hstage] using h.fits.target
  have hcount := RoutingTable.countP_update h.wellFormed h.has (ShardCopy.sameCopy_self (c.relocate target.id))
    fun c => c.isOn id || c.isMovingTo id
  have hafter : ((c.relocate target.id).isOn id || (c.relocate target.id).isMovingTo id) =
      (c.isOn id || decide (some target.id = some id)) := rfl
  have hbefore : (c.isOn id || c.isMovingTo id) = c.isOn id := by simp [ShardCopy.isMovingTo, hstays]
  rw [hbefore, hafter] at hcount
  rw [Round.update_routing, RoutingTable.length_onOrMovingTo_eq, RoutingTable.length_onOrMovingTo_eq]
  by_cases hid : id = target.id
  · subst hid
    have hoff : c.isOn target.id = false := decide_eq_false h.node_ne
    simpa only [hoff, decide_true, Bool.or_true, if_true, Bool.false_eq_true, if_false, Nat.add_zero] using hcount
  · have helse : some target.id ≠ some id := fun he => hid (Option.some.inj he).symm
    rw [decide_eq_false helse, Bool.or_false] at hcount
    rw [if_neg hid]
    omega

theorem isCrowded_update (e : ShardCopy) :
    (r.update (c.relocate target.id)).isCrowded limit e = r.isCrowded limit e := by
  rw [Round.isCrowded, Round.isCrowded, Round.update_directory]
  congr 1
  funext node
  have hroom := h.room
  rw [h.length_onOrMovingTo, decide_eq_decide]
  by_cases hid : node.id = target.id
  · rw [if_pos hid, hid]
    omega
  · rw [if_neg hid, Nat.add_zero]

/-- The room becomes less by one. -/
theorem room_update : (r.update (c.relocate target.id)).room limit + 1 = r.room limit := by
  obtain ⟨front, back, hsplit⟩ := List.append_of_mem h.data
  have hids : r.directory.dataNodes.Pairwise fun m n => m.id ≠ n.id :=
    (r.directory.nodes.sorted.filter Node.isDataNode).imp KeyOrder.ne_of_before
  rw [hsplit, List.pairwise_append, List.pairwise_cons] at hids
  obtain ⟨_, ⟨hback, _⟩, hfront⟩ := hids
  have helse : ∀ node : Node, node.id ≠ target.id →
      limit - ((r.update (c.relocate target.id)).routing.onOrMovingTo node.id).length =
        limit - (r.routing.onOrMovingTo node.id).length := by
    intro node hne
    rw [h.length_onOrMovingTo, if_neg hne, Nat.add_zero]
  have hroom := h.room
  rw [Round.room, Round.room, Round.update_directory, hsplit, List.map_append, List.map_append, List.map_cons,
    List.map_cons, List.sum_append, List.sum_append, List.sum_cons, List.sum_cons,
    List.map_congr_left fun node hn => helse node (hfront node hn target List.mem_cons_self),
    List.map_congr_left fun node hn => helse node (hback node hn).symm, h.length_onOrMovingTo, if_pos rfl]
  omega

end Leaves

theorem MoveTurn.leaves (h : MoveTurn [Rules.shardsLimit] r c (some d)) (cap : r.SoleCap limit)
    (hw : r.routing.WellFormed) (hf : r.routing.Fits) (hc : r.routing.Has c) :
    ∃ target, Leaves r limit c target ∧ d = c.relocate target.id := by
  cases h with
  | @moves node target hs hn hno ht =>
      have hp := ht.passing
      simp only [Bool.and_eq_true] at hp
      have hcrowded : limit < (r.routing.onOrMovingTo node.id).length := by
        rw [← Nat.not_le, ← cap.canRemain_iff, hno]
        exact nofun
      exact ⟨target, ⟨hw, hc, hf c hc, hs, Round.isCrowded_iff.2 ⟨node, hn, hcrowded⟩, ht.data,
        cap.canAllocate_iff.1 hp.2⟩, rfl⟩

/-- A started copy that stays where it is may stay, or no node has room for it. -/
theorem MoveTurn.stays (h : MoveTurn [Rules.shardsLimit] r c none) (cap : r.SoleCap limit) :
    r.isCrowded limit c = false ∨ r.room limit = 0 := by
  cases h with
  | away hn =>
      left
      rw [Round.isCrowded, hn]
      rfl
  | remains hn hr =>
      left
      rw [Round.isCrowded, hn]
      exact decide_eq_false (Nat.not_lt.2 (cap.canRemain_iff.1 hr))
  | @stuck node hn hno ht =>
      right
      refine List.sum_eq_zero (List.forall_mem_map.2 fun target hm => Nat.sub_eq_zero_of_le ?_)
      by_cases hid : target.id = node.id
      · have hcrowded : ¬ (r.routing.onOrMovingTo node.id).length ≤ limit := by
          rw [← cap.canRemain_iff, hno]
          exact nofun
        rw [hid]
        omega
      · have hfull := ht target hm hid
        rw [← Bool.not_eq_true, cap.canAllocate_iff] at hfull
        omega

/-- Of the copies that are due the first ones move, as many as there is room for. -/
theorem Pass.evicts (h : Pass (MoveTurn [Rules.shardsLimit]) l r log next) (cap : r.SoleCap limit)
    (hw : r.routing.WellFormed) (hf : r.routing.Fits) :
    List.Forall₂ (fun c d => ∃ target ∈ r.directory.dataNodes, d = c.relocate target.id)
      ((l.filter (r.isCrowded limit)).take (r.room limit)) log := by
  induction h with
  | nil => simp
  | @stays r next c l log hc ht _ ih =>
      have hrest := ih cap hw hf
      rcases ht.stays cap with hallowed | hfull
      · rwa [List.filter_cons_of_neg (by simp [hallowed])]
      · rw [hfull, List.take_zero] at hrest ⊢
        exact hrest
  | @replaced r next c d l log hc ht _ ih =>
      have hstep := ht.step hc
      obtain ⟨target, hl, rfl⟩ := ht.leaves cap hw hf hc
      have hrest := ih cap.update (hstep.wellFormed hw) (hstep.fits hw hf)
      rw [funext hl.isCrowded_update, Round.update_directory] at hrest
      rw [List.filter_cons_of_pos hl.crowded, ← hl.room_update, List.take_succ_cons]
      exact .cons ⟨target, hl.data, rfl⟩ hrest

/-- Copies that begin to move leave the nodes that they are on. -/
theorem countP_leaving {nodes : List Node} {taken : List ShardCopy}
    (h : List.Forall₂ (fun c d => ∃ target ∈ nodes, d = c.relocate target.id) taken log) :
    (log.countP fun d => d.isRelocating && d.isOn id) = taken.countP (·.isOn id) := by
  induction h with
  | nil => rfl
  | @cons c d _ _ hd _ ih =>
      obtain ⟨target, _, rfl⟩ := hd
      have hrelocates : ((c.relocate target.id).isRelocating && (c.relocate target.id).isOn id) = c.isOn id := rfl
      rw [List.countP_cons, List.countP_cons, ih, hrelocates]

section Round

variable (cap : r.SoleCap limit) (hw : r.routing.WellFormed) (hf : r.routing.Fits)
include cap hw hf

theorem length_departing : (r.routing.departing (moveCopies [Rules.shardsLimit] r).routing id).length =
    ((r.due limit).take (r.room limit)).countP (·.isOn id) := by
  obtain ⟨log, hpass⟩ := moveCopies_pass [Rules.shardsLimit] hw
  have hrenewed := (hpass.trail.mono fun _ _ _ => MoveTurn.advances).renewed_perm hw
  rw [RoutingTable.departing, (hrenewed.filter _).length_eq, ← List.countP_eq_length_filter]
  exact countP_leaving (hpass.evicts cap hw hf)

/-- As many copies leave a node as are on it among the first that are due, taking as many of these as there is room
for. So a node with no more copies than the limit loses none; and where there is room for all that are due, one with
more copies loses every copy that has started there. -/
theorem due_copies_move (id : NodeId) :
    let departing := r.routing.departing (moveCopies [Rules.shardsLimit] r).routing id
    departing.length = ((r.due limit).take (r.room limit)).countP (·.isOn id) ∧
    ((r.routing.onOrMovingTo id).length ≤ limit → departing = []) ∧
    ((r.due limit).length ≤ r.room limit → r.directory.contains id = true →
      limit < (r.routing.onOrMovingTo id).length →
      departing.length = r.routing.toList.countP fun c => c.isStarted && c.isOn id) := by
  intro departing
  have hlength : departing.length = _ := length_departing cap hw hf
  refine ⟨hlength, fun hunder => ?_, fun hroom hd hover => ?_⟩
  · rw [← List.length_eq_zero_iff, hlength, List.countP_eq_zero]
    intro c hc hon
    have hcrowded := (List.mem_filter.1 (List.mem_of_mem_take hc)).2
    exact Nat.not_lt.2 hunder ((Round.isCrowded_on hon).1 hcrowded).2
  · rw [hlength, List.take_of_length_le hroom, Round.due, List.countP_filter, List.countP_filter]
    refine List.countP_congr fun c _ => ?_
    simp only [Bool.and_eq_true]
    constructor
    · rintro ⟨⟨hon, _⟩, hs⟩
      exact ⟨hs, hon⟩
    · rintro ⟨hs, hon⟩
      exact ⟨⟨hon, (Round.isCrowded_on hon).2 ⟨hd, hover⟩⟩, hs⟩

end Round

/-- A new index on three nodes, all shards of which have started on the first. -/
def stacked (shards limit : Nat) : Round :=
  let nodes := ((Directory.empty.insert (ClusterState.dataNode "a")).insert (ClusterState.dataNode "b")).insert
    (ClusterState.dataNode "c")
  let settings := { Settings.initial.allocation with totalShardsPerNode := some limit }
  .start (ClusterState.servedBy "a" nodes ⟨"logs", shards, 0, .initial⟩) settings .empty

section Stacked

variable (shards limit : Nat)

theorem stacked_soleCap : (stacked shards limit).SoleCap limit := by
  refine ⟨rfl, fun index hi => ?_⟩
  rcases SortedBy.mem_insert.1 hi with rfl | ⟨hi, _⟩
  · rfl
  · exact absurd hi (SortedBy.not_mem_empty index)

theorem stacked_wellFormed : (stacked shards limit).routing.WellFormed :=
  ClusterState.servedBy_wellFormed "a" _ _

theorem stacked_fits : (stacked shards limit).routing.Fits :=
  ClusterState.servedBy_fits "a" _ _

end Stacked

/-- Three copies are one more than the limit allows, and instead of one all three leave. -/
theorem more_than_excess_leave :
    (stacked 3 2).SoleCap 2 ∧ (stacked 3 2).routing.WellFormed ∧ (stacked 3 2).routing.Fits ∧
      ((stacked 3 2).routing.onOrMovingTo "a").length = 3 ∧
      let after := (moveCopies [Rules.shardsLimit] (stacked 3 2)).routing
      ¬ ((stacked 3 2).routing.departing after "a").length ≤ 3 - 2 := by
  have cap := stacked_soleCap 3 2
  have hw := stacked_wellFormed 3 2
  have hf := stacked_fits 3 2
  refine ⟨cap, hw, hf, by decide +kernel, ?_⟩
  intro after
  rw [length_departing cap hw hf]
  decide +kernel

/-- Four copies are due where two are allowed, and the other nodes have room for just as many. -/
theorem four_leave_two_allowed :
    (stacked 4 2).SoleCap 2 ∧ (stacked 4 2).routing.WellFormed ∧ (stacked 4 2).routing.Fits ∧
      ((stacked 4 2).due 2).length = 4 ∧ (stacked 4 2).room 2 = 4 ∧
      let after := (moveCopies [Rules.shardsLimit] (stacked 4 2)).routing
      ((stacked 4 2).routing.departing after "a").length = 4 ∧ (stacked 4 2).routing.departing after "b" = [] := by
  have hdue : ((stacked 4 2).due 2).length = 4 := by decide +kernel
  have hroom : (stacked 4 2).room 2 = 4 := by decide +kernel
  have hover : 2 < ((stacked 4 2).routing.onOrMovingTo "a").length := by decide +kernel
  have hunder : ((stacked 4 2).routing.onOrMovingTo "b").length ≤ 2 := by decide +kernel
  have hstarted : ((stacked 4 2).routing.toList.countP fun c => c.isStarted && c.isOn "a") = 4 := by decide +kernel
  have hmove := due_copies_move (stacked_soleCap 4 2) (stacked_wellFormed 4 2) (stacked_fits 4 2)
  obtain ⟨_, _, hall⟩ := hmove "a"
  obtain ⟨_, hnone, _⟩ := hmove "b"
  refine ⟨stacked_soleCap 4 2, stacked_wellFormed 4 2, stacked_fits 4 2, hdue, hroom, ?_, hnone hunder⟩
  rw [hall (by omega) (by decide +kernel) hover, hstarted]

end Balance

end ClusterControl
