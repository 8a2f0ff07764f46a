import ClusterControl.Allocation.Balance
import ClusterControl.Proofs.Routing.Lifecycle
import Mathlib.Logic.Relation

/-!
The steps of the balanced allocator: a started copy that may not stay begins to move, an unassigned one is
placed, a started one begins to move to a lighter node. Each step sees the table as the steps before left it,
and replaces one copy of that table by one on a data node, in the same role as before.
-/

namespace ClusterControl

@[simp] theorem Round.update_routing (r : Round) (c : ShardCopy) : (r.update c).routing = r.routing.update c := by
  unfold Round.update RoutingTable.update
  cases r.routing.update? c <;> rfl

@[simp] theorem Round.update_state (r : Round) (c : ShardCopy) : (r.update c).state = r.state := by
  unfold Round.update
  cases r.routing.update? c <;> rfl

@[simp] theorem Round.update_settings (r : Round) (c : ShardCopy) : (r.update c).settings = r.settings := by
  unfold Round.update
  cases r.routing.update? c <;> rfl

@[simp] theorem Round.update_info (r : Round) (c : ShardCopy) : (r.update c).info = r.info := by
  unfold Round.update
  cases r.routing.update? c <;> rfl

@[simp] theorem Round.update_directory (r : Round) (c : ShardCopy) : (r.update c).directory = r.directory := by
  rw [Round.directory, Round.update_state, Round.directory]

@[simp] theorem Round.update_index? (r : Round) (c : ShardCopy) (name : String) :
    (r.update c).index? name = r.index? name := by
  rw [Round.index?, Round.update_state, Round.index?]

@[simp] theorem Round.update_indexOf? (r : Round) (c d : ShardCopy) : (r.update c).indexOf? d = r.indexOf? d :=
  r.update_index? c d.shard.index

namespace RoutingTable

variable {t : RoutingTable} {c : ShardCopy}

theorem mem_unassigned : c ∈ t.unassigned ↔ c ∈ t.toList ∧ c.isUnassigned = true := by
  rw [unassigned, List.mem_append, List.mem_filter, List.mem_filter, List.mem_filter]
  cases c.primary <;> simp

theorem WellFormed.pairwise_unassigned (h : t.WellFormed) :
    t.unassigned.Pairwise fun c d => c.sameCopy d = false := by
  have hp : (t.toList.filter ShardCopy.isUnassigned).Pairwise fun c d => c.sameCopy d = false :=
    h.pairwise_toList.filter _
  rw [unassigned, List.pairwise_append]
  refine ⟨hp.filter _, hp.filter _, ?_⟩
  intro c hc d hd
  obtain ⟨hc, hcp⟩ := List.mem_filter.1 hc
  obtain ⟨hd, hdp⟩ := List.mem_filter.1 hd
  rw [Bool.eq_false_iff]
  intro hs
  -- A copy is found by its shard and number, so the two would be one, primary and not.
  obtain ⟨hshard, hnumber⟩ := ShardCopy.sameCopy_iff.1 hs
  have hcHas := h.has_of_mem_toList (List.mem_filter.1 hc).1
  have hdHas := h.has_of_mem_toList (List.mem_filter.1 hd).1
  rw [Has, hshard, hnumber, hdHas] at hcHas
  cases hcHas
  simp [hcp] at hdp

end RoutingTable

namespace Balance

variable {chain : Chain} {r next : Round} {c : ShardCopy}

/-- A started copy that may not stay begins to move to another data node that takes it. -/
inductive Move (chain : Chain) (r : Round) : Round → Prop
  | move {c : ShardCopy} {node target : Node} (hc : r.routing.Has c) (hs : c.isStarted = true)
      (hn : c.node.bind r.directory.find? = some node) (hno : (chain.canRemain r c node).isNo = true)
      (ht : target ∈ r.directory.dataNodes) (hne : target.id ≠ node.id)
      (hy : (chain.canAllocate r c target).isYes = true) : Move chain r (r.update (c.relocate target.id))

/-- An unassigned copy is placed on a data node that takes it. -/
inductive Placement (chain : Chain) (r : Round) : Round → Prop
  | place {c : ShardCopy} {target : Node} (hc : r.routing.Has c) (hs : c.isUnassigned = true)
      (ht : target ∈ r.directory.dataNodes) (hy : (chain.canAllocate r c target).isYes = true) :
      Placement chain r (r.update (c.assign target.id))

/-- A started copy that may be rebalanced begins to move to a data node that takes it. -/
inductive Shift (chain : Chain) (r : Round) : Round → Prop
  | shift {c : ShardCopy} {target : Node} (hc : r.routing.Has c) (hs : c.isStarted = true)
      (hb : (chain.canRebalanceCopy r c).isYes = true) (ht : target ∈ r.directory.dataNodes)
      (hy : (chain.canAllocate r c target).isYes = true) : Shift chain r (r.update (c.relocate target.id))

inductive Step (chain : Chain) (r next : Round) : Prop
  | move (h : Move chain r next)
  | place (h : Placement chain r next)
  | shift (h : Shift chain r next)

/-- What becomes of a copy that a step replaces. -/
inductive Advances (c : ShardCopy) : ShardCopy → Prop
  | assign (id : NodeId) (h : c.isUnassigned = true) : Advances c (c.assign id)
  | relocate (id : NodeId) (h : c.isStarted = true) : Advances c (c.relocate id)

theorem Advances.lasts {advanced : ShardCopy} (h : Advances c advanced) : c.Lasts advanced := by
  cases h with
  | assign id h => exact ⟨c.sameCopy_self, rfl, (ShardCopy.isActive_of_isUnassigned h).symm⟩
  | relocate id h =>
      have hactive : c.isActive = true := by simp [ShardCopy.isActive, h]
      exact ⟨c.sameCopy_self, rfl, hactive.symm⟩

theorem Advances.sameCopy {advanced : ShardCopy} (h : Advances c advanced) : c.sameCopy advanced = true :=
  h.lasts.same

theorem Advances.fits {advanced : ShardCopy} (h : Advances c advanced) (hf : c.Fits) : advanced.Fits := by
  cases h with
  | assign id => exact c.fits_assign id
  | relocate id hs => exact hf.relocate hs id

/-- What a step puts in the place of a copy, and the node that it takes for it. -/
inductive Lands (target : Node) (c : ShardCopy) : ShardCopy → Prop
  | assign (h : c.isUnassigned = true) : Lands target c (c.assign target.id)
  | relocate (h : c.isStarted = true) : Lands target c (c.relocate target.id)

theorem Lands.advances {target : Node} {advanced : ShardCopy} (h : Lands target c advanced) : Advances c advanced := by
  cases h with
  | assign h => exact .assign _ h
  | relocate h => exact .relocate _ h

theorem Lands.places {target : Node} {advanced : ShardCopy} {id : NodeId} (h : Lands target c advanced)
    (hid : id ∈ advanced.places) : id ∈ c.places ∨ id = target.id := by
  cases h with
  | assign => exact .inr (ShardCopy.mem_places_assign.1 hid)
  | relocate => exact (ShardCopy.mem_places_relocate.1 hid).imp_left fun hn => ShardCopy.mem_places.2 (.inl hn)

/-- Whatever a step is for, the rules let it put the copy on a data node. -/
theorem Step.lands (h : Step chain r next) :
    ∃ c target advanced, r.routing.Has c ∧ target ∈ r.directory.dataNodes ∧
      (chain.canAllocate r c target).isYes = true ∧ Lands target c advanced ∧ next = r.update advanced := by
  cases h with
  | move h =>
      cases h with
      | move hc hs _ _ ht _ hy => exact ⟨_, _, _, hc, ht, hy, .relocate hs, rfl⟩
  | place h =>
      cases h with
      | place hc hs ht hy => exact ⟨_, _, _, hc, ht, hy, .assign hs, rfl⟩
  | shift h =>
      cases h with
      | shift hc hs _ ht hy => exact ⟨_, _, _, hc, ht, hy, .relocate hs, rfl⟩

/-- A copy of the table is placed on a data node, or begins to move there. -/
structure Arrival (r : Round) (c : ShardCopy) (target : Node) (advanced : ShardCopy) : Prop where
  wellFormed : r.routing.WellFormed
  has : r.routing.Has c
  data : target ∈ r.directory.dataNodes
  lands : Lands target c advanced

theorem Step.arrival (h : Step chain r next) (hw : r.routing.WellFormed) :
    ∃ c target advanced, Arrival r c target advanced ∧ (chain.canAllocate r c target).isYes = true ∧
      next = r.update advanced := by
  obtain ⟨c, target, advanced, hc, ht, hy, hl, he⟩ := h.lands
  exact ⟨c, target, advanced, ⟨hw, hc, ht, hl⟩, hy, he⟩

namespace Arrival

variable {target : Node} {advanced : ShardCopy} (h : Arrival r c target advanced)
include h

theorem sameCopy : c.sameCopy advanced = true :=
  h.lands.advances.sameCopy

theorem shard_eq : advanced.shard = c.shard :=
  (ShardCopy.sameCopy_iff.1 h.sameCopy).1.symm

theorem destination_eq : advanced.destination = some target.id := by
  cases h.lands <;> rfl

theorem find?_target : r.directory.find? target.id = some target :=
  SortedBy.find?_eq_some_iff.2 ⟨(List.mem_filter.1 h.data).1, rfl⟩

end Arrival

theorem Step.advances (h : Step chain r next) :
    ∃ c advanced, r.routing.Has c ∧ Advances c advanced ∧ next = r.update advanced := by
  obtain ⟨c, _, advanced, hc, _, _, hl, he⟩ := h.lands
  exact ⟨c, advanced, hc, hl.advances, he⟩

theorem Step.wellFormed (h : Step chain r next) (hw : r.routing.WellFormed) : next.routing.WellFormed := by
  obtain ⟨c, advanced, _, _, rfl⟩ := h.advances
  rw [Round.update_routing]
  exact hw.update advanced

theorem Step.directory_eq (h : Step chain r next) : next.directory = r.directory := by
  obtain ⟨_, advanced, _, _, rfl⟩ := h.advances
  exact Round.update_directory r advanced

theorem Step.state_eq (h : Step chain r next) : next.state = r.state := by
  obtain ⟨_, advanced, _, _, rfl⟩ := h.advances
  exact Round.update_state r advanced

theorem Step.settings_eq (h : Step chain r next) : next.settings = r.settings := by
  obtain ⟨_, advanced, _, _, rfl⟩ := h.advances
  exact Round.update_settings r advanced

theorem Step.lasting (h : Step chain r next) (hw : r.routing.WellFormed) : r.routing.Lasting next.routing := by
  obtain ⟨c, advanced, hc, ha, rfl⟩ := h.advances
  rw [Round.update_routing]
  exact RoutingTable.lasting_update hw hc ha.lasts

theorem Step.fits (h : Step chain r next) (hw : r.routing.WellFormed) (hf : r.routing.Fits) : next.routing.Fits := by
  obtain ⟨c, advanced, hc, ha, rfl⟩ := h.advances
  intro d hd
  rw [Round.update_routing] at hd
  rcases (hc.update_iff hw ha.sameCopy).1 hd with rfl | ⟨hd, _⟩
  · exact ha.fits (hf c hc)
  · exact hf d hd

theorem Step.housed (h : Step chain r next) (hw : r.routing.WellFormed) (hr : r.routing.Housed r.directory) :
    next.routing.Housed next.directory := by
  obtain ⟨c, target, advanced, hc, ht, _, hl, rfl⟩ := h.lands
  have hcontains : r.directory.contains target.id = true :=
    SortedBy.contains_iff.2 ⟨target, (List.mem_filter.1 ht).1, rfl⟩
  intro d hd id hid
  rw [Round.update_routing] at hd
  rw [Round.update_directory]
  rcases (hc.update_iff hw hl.advances.sameCopy).1 hd with rfl | ⟨hd, _⟩
  · rcases hl.places hid with hold | rfl
    · exact hr c hc id hold
    · exact hcontains
  · exact hr d hd id hid

theorem keeps_of_steps {P : Round → Prop} (hk : ∀ r next, Step chain r next → P r → P next)
    (h : Relation.ReflTransGen (Step chain) r next) (hr : P r) : P next := by
  induction h with
  | refl => exact hr
  | tail _ hs ih => exact hk _ _ hs ih

theorem lasting_of_steps (h : Relation.ReflTransGen (Step chain) r next) (hw : r.routing.WellFormed) :
    r.routing.Lasting next.routing :=
  (keeps_of_steps (P := fun next => next.routing.WellFormed ∧ r.routing.Lasting next.routing)
    (fun _ _ hs ih => ⟨hs.wellFormed ih.1, ih.2.trans (hs.lasting ih.1)⟩) h ⟨hw, .refl _⟩).2

theorem housed_of_steps (h : Relation.ReflTransGen (Step chain) r next) (hw : r.routing.WellFormed)
    (hh : r.routing.Housed r.directory) : next.routing.Housed r.directory := by
  have hkept := keeps_of_steps (P := fun next =>
    next.routing.WellFormed ∧ next.directory = r.directory ∧ next.routing.Housed next.directory) ?_ h ⟨hw, rfl, hh⟩
  · exact hkept.2.1 ▸ hkept.2.2
  · rintro mid next hs ⟨hw, hd, hh⟩
    exact ⟨hs.wellFormed hw, hs.directory_eq.trans hd, hs.housed hw hh⟩

end Balance

end ClusterControl
