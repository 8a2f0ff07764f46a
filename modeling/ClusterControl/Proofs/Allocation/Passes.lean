import ClusterControl.Proofs.Allocation.Steps

/-!
The passes of the balanced allocator. It takes the started copies in turn, then the copies that are unassigned
by then, and then balances. Each turn sees the table as the turns before left it, and says why a copy stays
where it is or which node it goes to: the lightest that takes it. No copy is replaced twice, so each is still
in the table when its turn comes.
-/

namespace ClusterControl

namespace Balance

variable {chain : Chain} {r next : Round} {c d e : ShardCopy} {l log : List ShardCopy} {index : String}

theorem Advances.before {advanced : ShardCopy} (h : Advances c advanced) : c.isRecovering = false := by
  cases h <;> simp_all [ShardCopy.isRecovering, ShardCopy.isInitializing, ShardCopy.isRelocating,
    ShardCopy.isUnassigned, ShardCopy.isStarted]

theorem Advances.after {advanced : ShardCopy} (h : Advances c advanced) : advanced.isRecovering = true := by
  cases h <;> rfl

section Order

theorem Weighed.notAfter_trans {a b c : Weighed} (h : a.notAfter b = true) (h' : b.notAfter c = true) :
    a.notAfter c = true := by
  simp only [notAfter, Bool.or_eq_true, Bool.and_eq_true, decide_eq_true_eq, Bool.not_eq_true'] at h h' ⊢
  rcases h with h | ⟨h, hid⟩ <;> rcases h' with h' | ⟨h', hid'⟩
  · exact .inl (Int.lt_trans h h')
  · exact .inl (h' ▸ h)
  · exact .inl (h ▸ h')
  · refine .inr ⟨h.trans h', ?_⟩
    by_contra hc
    rw [Bool.not_eq_false] at hc
    cases hb : KeyOrder.before b.node.id c.node.id with
    | true => rw [KeyOrder.trans hb hc] at hid; cases hid
    | false => rw [KeyOrder.connex hid' hb, hid] at hc; cases hc

theorem Weighed.notAfter_total (a b : Weighed) : (a.notAfter b || b.notAfter a) = true := by
  simp only [notAfter, Bool.or_eq_true, Bool.and_eq_true, decide_eq_true_eq, Bool.not_eq_true']
  rcases Int.lt_trichotomy (Double.rank a.weight) (Double.rank b.weight) with h | h | h
  · exact .inl (.inl h)
  · cases hb : KeyOrder.before b.node.id a.node.id with
    | false => exact .inl (.inr ⟨h, rfl⟩)
    | true => exact .inr (.inr ⟨h.symm, KeyOrder.not_before_of_before hb⟩)
  · exact .inr (.inl h)

theorem pairwise_nodesByWeight (r : Round) (index : String) :
    (nodesByWeight r index).Pairwise fun v w => v.notAfter w = true := by
  have hsorted : ∀ l : List Weighed, (l.mergeSort Weighed.notAfter).Pairwise fun v w => v.notAfter w = true :=
    List.pairwise_mergeSort (fun _ _ _ => Weighed.notAfter_trans) Weighed.notAfter_total
  exact hsorted _

/-- Nodes that are in the order of their weights already are taken in that order. -/
theorem nodesByWeight_eq (h : (r.directory.dataNodes.map fun node =>
      (⟨weight r index r.directory.dataNodes.length node.id, node⟩ : Weighed)).Pairwise fun v w => v.notAfter w = true) :
    nodesByWeight r index =
      r.directory.dataNodes.map fun node => ⟨weight r index r.directory.dataNodes.length node.id, node⟩ :=
  List.mergeSort_of_pairwise h

theorem exists_weighed_iff {node : Node} :
    (∃ w ∈ nodesByWeight r index, w.node = node) ↔ node ∈ r.directory.dataNodes := by
  simp [nodesByWeight, List.mem_mergeSort]

end Order

/-- The node that comes out of a search for one that passes: of all data nodes that do, it is the first in the
order of weights. -/
structure Takes (r : Round) (index : String) (passes : Node → Bool) (target : Node) : Prop where
  data : target ∈ r.directory.dataNodes
  passing : passes target = true
  first : ∃ before w after, nodesByWeight r index = before ++ w :: after ∧ w.node = target ∧
    ∀ v ∈ before, passes v.node = false
  lightest : ∃ w ∈ nodesByWeight r index, w.node = target ∧
    ∀ v ∈ nodesByWeight r index, passes v.node = true → w.notAfter v = true

theorem takes_of_find? (passes : Node → Bool) {w : Weighed}
    (h : (nodesByWeight r index).find? (fun w => passes w.node) = some w) : Takes r index passes w.node := by
  obtain ⟨hp, before, after, hsplit, hbefore⟩ := List.find?_eq_some_iff_append.1 h
  have hm : w ∈ nodesByWeight r index := List.mem_of_find?_eq_some h
  have hbefore' : ∀ v ∈ before, passes v.node = false := fun v hv => by simpa using hbefore v hv
  refine ⟨exists_weighed_iff.1 ⟨w, hm, rfl⟩, hp, ⟨before, w, after, hsplit, rfl, hbefore'⟩, w, hm, rfl, ?_⟩
  intro v hv hpv
  have hsorted := pairwise_nodesByWeight r index
  rw [hsplit, List.mem_append, List.mem_cons] at hv
  rw [hsplit, List.pairwise_append, List.pairwise_cons] at hsorted
  rcases hv with hv | rfl | hv
  · rw [hbefore' v hv] at hpv
    cases hpv
  · simpa using Weighed.notAfter_total v v
  · exact hsorted.2.1.1 v hv

theorem refused_of_find? (passes : Node → Bool)
    (h : (nodesByWeight r index).find? (fun w => passes w.node) = none) {target : Node}
    (ht : target ∈ r.directory.dataNodes) : passes target = false := by
  obtain ⟨w, hw, rfl⟩ := exists_weighed_iff.2 ht
  simpa using List.find?_eq_none.1 h w hw

/-- The turn of a started copy: it stays as it is, or begins to move. -/
inductive MoveTurn (chain : Chain) (r : Round) (c : ShardCopy) : Option ShardCopy → Prop
  | away (hn : c.node.bind r.directory.find? = none) : MoveTurn chain r c none
  | remains {node : Node} (hn : c.node.bind r.directory.find? = some node)
      (hr : (chain.canRemain r c node).isNo = false) : MoveTurn chain r c none
  | stuck {node : Node} (hn : c.node.bind r.directory.find? = some node)
      (hno : (chain.canRemain r c node).isNo = true)
      (ht : ∀ target ∈ r.directory.dataNodes, target.id ≠ node.id → (chain.canAllocate r c target).isYes = false) :
      MoveTurn chain r c none
  | moves {node target : Node} (hs : c.isStarted = true) (hn : c.node.bind r.directory.find? = some node)
      (hno : (chain.canRemain r c node).isNo = true)
      (ht : Takes r c.shard.index (fun n => n.id ≠ node.id && (chain.canAllocate r c n).isYes) target) :
      MoveTurn chain r c (some (c.relocate target.id))

/-- The turn of an unassigned copy: it stays so, or is placed. -/
inductive PlaceTurn (chain : Chain) (r : Round) (c : ShardCopy) : Option ShardCopy → Prop
  | stuck (ht : ∀ target ∈ r.directory.dataNodes, (chain.canAllocate r c target).isYes = false) :
      PlaceTurn chain r c none
  | placed {target : Node} (hs : c.isUnassigned = true)
      (ht : Takes r c.shard.index (fun n => (chain.canAllocate r c n).isYes) target) :
      PlaceTurn chain r c (some (c.assign target.id))

/-- A started copy that begins to move for balance. -/
inductive ShiftTurn (chain : Chain) (r : Round) (c : ShardCopy) : ShardCopy → Prop
  | shifts {target : Node} (hs : c.isStarted = true) (hb : (chain.canRebalanceCopy r c).isYes = true)
      (ht : target ∈ r.directory.dataNodes) (hy : (chain.canAllocate r c target).isYes = true) :
      ShiftTurn chain r c (c.relocate target.id)

/-- Copies of the table are replaced one after the other; the values that take their places are listed. -/
inductive Trail (turn : Round → ShardCopy → ShardCopy → Prop) : Round → List ShardCopy → Round → Prop
  | nil (r : Round) : Trail turn r [] r
  | cons {r next : Round} {c d : ShardCopy} {log : List ShardCopy} (hc : r.routing.Has c) (h : turn r c d)
      (rest : Trail turn (r.update d) log next) : Trail turn r (d :: log) next

/-- The copies of a list take their turns, each in the table that the one before left. -/
inductive Pass (turn : Round → ShardCopy → Option ShardCopy → Prop) :
    List ShardCopy → Round → List ShardCopy → Round → Prop
  | nil (r : Round) : Pass turn [] r [] r
  | stays {r next : Round} {c : ShardCopy} {l log : List ShardCopy} (hc : r.routing.Has c) (h : turn r c none)
      (rest : Pass turn l r log next) : Pass turn (c :: l) r log next
  | replaced {r next : Round} {c d : ShardCopy} {l log : List ShardCopy} (hc : r.routing.Has c)
      (h : turn r c (some d)) (rest : Pass turn l (r.update d) log next) : Pass turn (c :: l) r (d :: log) next

namespace Trail

variable {turn turn' : Round → ShardCopy → ShardCopy → Prop} {mid : Round} {log' : List ShardCopy}

theorem mono (ht : ∀ r c d, turn r c d → turn' r c d) (h : Trail turn r log next) : Trail turn' r log next := by
  induction h with
  | nil r => exact .nil r
  | cons hc h _ ih => exact .cons hc (ht _ _ _ h) ih

theorem append (h : Trail turn r log mid) (h' : Trail turn mid log' next) : Trail turn r (log ++ log') next := by
  induction h with
  | nil => exact h'
  | cons hc h _ ih => exact .cons hc h (ih h')

theorem settings_eq (h : Trail turn r log next) : next.settings = r.settings := by
  induction h with
  | nil => rfl
  | cons _ _ _ ih => rw [ih, Round.update_settings]

theorem steps {S : Round → Round → Prop} (hs : ∀ r c d, r.routing.Has c → turn r c d → S r (r.update d))
    (h : Trail turn r log next) : Relation.ReflTransGen S r next := by
  induction h with
  | nil => exact .refl
  | cons hc h _ ih => exact .head (hs _ _ _ hc h) ih

variable (hw : r.routing.WellFormed) (h : Trail (fun _ => Advances) r log next)
include hw h

theorem wellFormed : next.routing.WellFormed := by
  induction h with
  | nil => exact hw
  | cons _ _ _ ih => exact ih (by simpa using hw.update _)

theorem recovering (he : r.routing.Has e) (hr : e.isRecovering = true) :
    next.routing.Has e ∧ ∀ d ∈ log, d.sameCopy e = false := by
  induction h with
  | nil => exact ⟨he, by simp⟩
  | @cons r next c d log hc ha _ ih =>
      have hne : d.sameCopy e = false := by
        rw [← ShardCopy.sameCopy_congr ha.sameCopy]
        by_contra hs
        obtain rfl := hc.eq_of_sameCopy he (by simpa using hs)
        rw [ha.before] at hr
        cases hr
      have he' : (r.update d).routing.Has e := by
        rw [Round.update_routing]
        exact he.update_of_ne hw (ShardCopy.sameCopy_comm ▸ hne)
      obtain ⟨hnext, hlog⟩ := ih (by simpa using hw.update _) he'
      exact ⟨hnext, List.forall_mem_cons.2 ⟨hne, hlog⟩⟩

theorem pairwise : log.Pairwise fun c d => c.sameCopy d = false := by
  induction h with
  | nil => exact .nil
  | @cons r next c d log hc ha rest ih =>
      have hw' : (r.update d).routing.WellFormed := by simpa using hw.update _
      have hd : (r.update d).routing.Has d := by
        rw [Round.update_routing]
        exact hc.update_self hw ha.sameCopy
      refine .cons ?_ (ih hw')
      intro e he
      rw [ShardCopy.sameCopy_comm]
      exact (rest.recovering hw' hd ha.after).2 e he

/-- The copies that a trail lists are those that the table has in the end and did not have before. -/
theorem mem_log_iff : e ∈ log ↔ next.routing.Has e ∧ ¬ r.routing.Has e := by
  induction h with
  | nil => simp
  | @cons r next c d log hc ha rest ih =>
      have hw' : (r.update d).routing.WellFormed := by simpa using hw.update _
      have hupdate : (r.update d).routing.Has e ↔ e = d ∨ r.routing.Has e ∧ e.sameCopy d = false := by
        rw [Round.update_routing]
        exact hc.update_iff hw ha.sameCopy
      have hd : next.routing.Has d := (rest.recovering hw' (by simpa using hc.update_self hw ha.sameCopy) ha.after).1
      rw [List.mem_cons, ih hw', hupdate]
      constructor
      · rintro (rfl | ⟨he, hnot⟩)
        · refine ⟨hd, fun hold => ?_⟩
          obtain rfl := hc.eq_of_sameCopy hold ha.sameCopy
          cases ha.after.symm.trans ha.before
        · refine ⟨he, fun hold => ?_⟩
          have hs : e.sameCopy d = true := by simpa [hold] using fun hne => hnot (.inr ⟨hold, hne⟩)
          exact hnot (.inl (he.eq_of_sameCopy hd hs))
      · rintro ⟨he, hnew⟩
        by_cases hed : e = d
        · exact .inl hed
        · exact .inr ⟨he, fun hold => hold.elim hed fun hold => hnew hold.1⟩

theorem renewed_perm : (r.routing.renewed next.routing).Perm log := by
  have hwf := wellFormed hw h
  have hlog : log.Nodup := (pairwise hw h).imp ShardCopy.ne_of_not_sameCopy
  refine (List.perm_ext_iff_of_nodup (hwf.nodup_toList.filter _) hlog).2 fun c => ?_
  exact (RoutingTable.mem_renewed hwf).trans (mem_log_iff hw h).symm

end Trail

namespace Pass

variable {turn : Round → ShardCopy → Option ShardCopy → Prop}

theorem trail (h : Pass turn l r log next) : Trail (fun r c d => turn r c (some d)) r log next := by
  induction h with
  | nil r => exact .nil r
  | stays _ _ _ ih => exact ih
  | replaced hc h _ ih => exact .cons hc h ih

/-- A pass over different copies of the table, which replaces none but the one at hand. -/
theorem of_foldl {f : Round → ShardCopy → Round} (hw : r.routing.WellFormed)
    (hl : l.Pairwise fun c d => c.sameCopy d = false) (hh : ∀ c ∈ l, r.routing.Has c)
    (hf : ∀ r : Round, ∀ c ∈ l, r.routing.Has c → turn r c none ∧ f r c = r ∨
      ∃ d, turn r c (some d) ∧ c.sameCopy d = true ∧ f r c = r.update d) :
    ∃ log, Pass turn l r log (l.foldl f r) := by
  -- The copies still to come are carried along: an update of the one at hand leaves them in the table.
  induction l generalizing r with
  | nil => exact ⟨[], .nil r⟩
  | cons c l ih =>
      obtain ⟨hne, hl⟩ := List.pairwise_cons.1 hl
      obtain ⟨hc, hh⟩ := List.forall_mem_cons.1 hh
      have hf' := fun r d (hd : d ∈ l) => hf r d (List.mem_cons_of_mem c hd)
      rw [List.foldl_cons]
      rcases hf r c List.mem_cons_self hc with ⟨ht, he⟩ | ⟨d, ht, hs, he⟩
      · rw [he]
        obtain ⟨log, h⟩ := ih hw hl hh hf'
        exact ⟨log, .stays hc ht h⟩
      · rw [he]
        have hstill : ∀ e ∈ l, (r.update d).routing.Has e := by
          intro e he
          rw [Round.update_routing]
          refine (hh e he).update_of_ne hw ?_
          rw [ShardCopy.sameCopy_comm, ← ShardCopy.sameCopy_congr hs]
          exact hne e he
        obtain ⟨log, h⟩ := ih (by simpa using hw.update d) hl hstill hf'
        exact ⟨d :: log, .replaced hc ht h⟩

end Pass

theorem moveCopy_turn (chain : Chain) (r : Round) (hs : c.isStarted = true) :
    MoveTurn chain r c none ∧ moveCopy chain r c = r ∨
      ∃ d, MoveTurn chain r c (some d) ∧ c.sameCopy d = true ∧ moveCopy chain r c = r.update d := by
  unfold moveCopy
  split
  case h_1 hn => exact .inl ⟨.away hn, rfl⟩
  case h_2 node hn =>
    split
    case isTrue hr => exact .inl ⟨.remains hn (by simpa using hr), rfl⟩
    case isFalse hno =>
      have hno' : (chain.canRemain r c node).isNo = true := by simpa using hno
      dsimp only
      split
      case h_1 w hw =>
        exact .inr ⟨_, .moves hs hn hno' (takes_of_find? _ hw), ShardCopy.sameCopy_self _, rfl⟩
      case h_2 hnone =>
        refine .inl ⟨.stuck hn hno' ?_, rfl⟩
        intro target ht hne
        simpa [hne] using refused_of_find? (fun n => n.id ≠ node.id && (chain.canAllocate r c n).isYes) hnone ht

theorem assignCopy_turn (chain : Chain) (r : Round) (hs : c.isUnassigned = true) :
    PlaceTurn chain r c none ∧ assignCopy chain r c = r ∨
      ∃ d, PlaceTurn chain r c (some d) ∧ c.sameCopy d = true ∧ assignCopy chain r c = r.update d := by
  unfold assignCopy
  split
  case h_1 w hw =>
    exact .inr ⟨_, .placed hs (takes_of_find? (fun n => (chain.canAllocate r c n).isYes) hw),
      ShardCopy.sameCopy_self _, rfl⟩
  case h_2 hnone =>
    refine .inl ⟨.stuck fun target ht => ?_, rfl⟩
    exact refused_of_find? (fun n => (chain.canAllocate r c n).isYes) hnone ht

theorem moveCopies_pass (chain : Chain) (hw : r.routing.WellFormed) :
    ∃ log, Pass (MoveTurn chain) (r.routing.toList.filter ShardCopy.isStarted) r log (moveCopies chain r) := by
  refine Pass.of_foldl hw (hw.pairwise_toList.filter _) ?_ ?_
  · intro c hc
    exact hw.has_of_mem_toList (List.mem_filter.1 hc).1
  · intro r c hc _
    exact moveCopy_turn chain r (List.mem_filter.1 hc).2

theorem assignCopies_pass (chain : Chain) (hw : r.routing.WellFormed) :
    ∃ log, Pass (PlaceTurn chain) r.routing.unassigned r log (assignCopies chain r) := by
  refine Pass.of_foldl hw hw.pairwise_unassigned ?_ ?_
  · intro c hc
    exact hw.has_of_mem_toList (RoutingTable.mem_unassigned.1 hc).1
  · intro r c hc _
    exact assignCopy_turn chain r (RoutingTable.mem_unassigned.1 hc).2

theorem shift_of_relocation? {step : Float} {target : Node} (hw : r.routing.WellFormed)
    (h : relocation? chain r index step = some (c, target)) :
    r.routing.Has c ∧ ShiftTurn chain r c (c.relocate target.id) := by
  unfold relocation? at h
  obtain ⟨heavy, _, h⟩ := Option.bind_eq_some_iff.1 h
  obtain ⟨w, hlight, h⟩ := List.exists_of_findSome?_eq_some h
  obtain ⟨found, hf, he⟩ := Option.map_eq_some_iff.1 h
  cases he
  have hm := List.mem_of_find?_eq_some hf
  have hy := List.find?_some hf
  simp only [List.mem_filter, Bool.and_eq_true, RoutingTable.indexCopies] at hm hy
  have ht : w.node ∈ r.directory.dataNodes := exists_weighed_iff.1 ⟨w, (List.takeWhile_sublist _).subset hlight, rfl⟩
  exact ⟨hw.has_of_mem_toList hm.1.1, .shifts hm.2.1 hy.1 ht hy.2⟩

theorem rebalanceIndex_trail (chain : Chain) (step : Float) (index : String) (moves : Nat)
    (hw : r.routing.WellFormed) : ∃ log, Trail (ShiftTurn chain) r log (rebalanceIndex chain step index moves r) := by
  induction moves generalizing r with
  | zero => exact ⟨[], .nil r⟩
  | succ moves ih =>
      rw [rebalanceIndex]
      split
      case h_2 => exact ⟨[], .nil r⟩
      case h_1 c target h =>
        obtain ⟨hc, hs⟩ := shift_of_relocation? hw h
        obtain ⟨log, hlog⟩ := ih (r := r.update (c.relocate target.id)) (by simpa using hw.update _)
        exact ⟨_, .cons hc hs hlog⟩

theorem MoveTurn.advances (h : MoveTurn chain r c (some d)) : Advances c d := by
  cases h with
  | moves hs => exact .relocate _ hs

theorem PlaceTurn.advances (h : PlaceTurn chain r c (some d)) : Advances c d := by
  cases h with
  | placed hs => exact .assign _ hs

theorem ShiftTurn.advances (h : ShiftTurn chain r c d) : Advances c d := by
  cases h with
  | shifts hs => exact .relocate _ hs

theorem ShiftTurn.isStarted (h : ShiftTurn chain r c d) : c.isStarted = true := by
  cases h with
  | shifts hs => exact hs

theorem moveCopies_wellFormed (chain : Chain) (hw : r.routing.WellFormed) : (moveCopies chain r).routing.WellFormed := by
  obtain ⟨log, h⟩ := moveCopies_pass chain hw
  exact (h.trail.mono fun _ _ _ => MoveTurn.advances).wellFormed hw

theorem assignCopies_wellFormed (chain : Chain) (hw : r.routing.WellFormed) :
    (assignCopies chain r).routing.WellFormed := by
  obtain ⟨log, h⟩ := assignCopies_pass chain hw
  exact (h.trail.mono fun _ _ _ => PlaceTurn.advances).wellFormed hw

theorem rebalanceIndex_wellFormed (chain : Chain) (step : Float) (index : String) (moves : Nat)
    (hw : r.routing.WellFormed) : (rebalanceIndex chain step index moves r).routing.WellFormed := by
  obtain ⟨log, h⟩ := rebalanceIndex_trail chain step index moves hw
  exact (h.mono fun _ _ _ => ShiftTurn.advances).wellFormed hw

theorem foldl_rebalanceIndex_trail (chain : Chain) (step : Float) (names : List String)
    (hw : r.routing.WellFormed) : ∃ log, Trail (ShiftTurn chain) r log (names.foldl (fun r index =>
      rebalanceIndex chain step index (r.routing.indexCopies index).length r) r) := by
  induction names generalizing r with
  | nil => exact ⟨[], .nil r⟩
  | cons index names ih =>
      obtain ⟨log, h⟩ := rebalanceIndex_trail chain step index (r.routing.indexCopies index).length hw
      obtain ⟨log', h'⟩ := ih (rebalanceIndex_wellFormed chain step index _ hw)
      exact ⟨log ++ log', h.append h'⟩

theorem rebalance_trail (chain : Chain) (hw : r.routing.WellFormed) :
    ∃ log, Trail (ShiftTurn chain) r log (rebalance chain r) ∧ ((chain.canRebalance r).isYes = false → log = []) := by
  unfold rebalance
  split
  case isTrue => exact ⟨[], .nil r, fun _ => rfl⟩
  case isFalse hy =>
    have hyes : ¬ (chain.canRebalance r).isYes = false := by simpa using hy
    split
    case h_1 => exact ⟨[], .nil r, fun _ => rfl⟩
    case h_2 =>
      obtain ⟨log, h⟩ := foldl_rebalanceIndex_trail chain _ _ hw
      exact ⟨log, h, fun hno => absurd hno hyes⟩

/-- The three passes, from one round to the next: started copies that may not stay, unassigned copies, and then
balance, if the rules allow it. -/
structure Phases (chain : Chain) (r moved placed next : Round) (moves placements shifts : List ShardCopy) : Prop where
  moving : Pass (MoveTurn chain) (r.routing.toList.filter ShardCopy.isStarted) r moves moved
  placing : Pass (PlaceTurn chain) moved.routing.unassigned moved placements placed
  shifting : Trail (ShiftTurn chain) placed shifts next
  balance : (chain.canRebalance placed).isYes = false → shifts = []

theorem Phases.trail {moved placed : Round} {moves placements shifts : List ShardCopy}
    (h : Phases chain r moved placed next moves placements shifts) :
    Trail (fun _ => Advances) r (moves ++ placements ++ shifts) next := by
  have hmoves := h.moving.trail.mono fun _ _ _ => MoveTurn.advances
  have hplacements := h.placing.trail.mono fun _ _ _ => PlaceTurn.advances
  exact (hmoves.append hplacements).append (h.shifting.mono fun _ _ _ => ShiftTurn.advances)

section NoDataNodes

variable (hr : r.directory.dataNodes = [])
include hr

theorem nodesByWeight_eq_nil (index : String) : nodesByWeight r index = [] := by
  simp [nodesByWeight, hr]

theorem moveCopies_eq (chain : Chain) : moveCopies chain r = r := by
  refine List.foldl_fixed' (fun c => ?_) _
  unfold moveCopy
  split
  case h_1 => rfl
  case h_2 => simp [nodesByWeight_eq_nil hr]

theorem assignCopies_eq (chain : Chain) : assignCopies chain r = r := by
  refine List.foldl_fixed' (fun c => ?_) _
  simp [assignCopy, nodesByWeight_eq_nil hr]

end NoDataNodes

/-- What the allocator does to a table it does in these passes. -/
theorem allocate_phases (chain : Chain) (hw : r.routing.WellFormed) : ∃ moved placed moves placements shifts,
    Phases chain r moved placed (allocate chain r) moves placements shifts := by
  have hmoved := moveCopies_wellFormed chain hw
  obtain ⟨moves, hmoves⟩ := moveCopies_pass chain hw
  obtain ⟨placements, hplacements⟩ := assignCopies_pass chain hmoved
  unfold allocate
  split
  case isTrue hempty =>
    -- The first two passes find no node for any copy, and there is no third one.
    have hr : r.directory.dataNodes = [] := List.isEmpty_iff.1 hempty
    rw [moveCopies_eq hr] at hmoves hplacements
    rw [assignCopies_eq hr] at hplacements
    exact ⟨r, r, moves, placements, [], hmoves, hplacements, .nil r, fun _ => rfl⟩
  case isFalse =>
    obtain ⟨shifts, hshifts, hbalance⟩ := rebalance_trail chain (assignCopies_wellFormed chain hmoved)
    exact ⟨_, _, moves, placements, shifts, hmoves, hplacements, hshifts, hbalance⟩

theorem MoveTurn.step (h : MoveTurn chain r c (some d)) (hc : r.routing.Has c) : Step chain r (r.update d) := by
  cases h with
  | moves hs hn hno ht =>
      have hp := ht.passing
      simp only [Bool.and_eq_true, decide_eq_true_eq] at hp
      exact .move (.move hc hs hn hno ht.data hp.1 hp.2)

theorem Phases.steps {moved placed : Round} {moves placements shifts : List ShardCopy}
    (h : Phases chain r moved placed next moves placements shifts) : Relation.ReflTransGen (Step chain) r next := by
  refine (h.moving.trail.steps fun r c d hc ht => ht.step hc).trans
    ((h.placing.trail.steps fun r c d hc ht => ?_).trans (h.shifting.steps fun r c d hc ht => ?_))
  · cases ht with
    | placed hs ht => exact .place (.place hc hs ht.data ht.passing)
  · cases ht with
    | shifts hs hb ht hy => exact .shift (.shift hc hs hb ht hy)

theorem allocate_steps (chain : Chain) (hw : r.routing.WellFormed) :
    Relation.ReflTransGen (Step chain) r (allocate chain r) := by
  obtain ⟨_, _, _, _, _, h⟩ := allocate_phases chain hw
  exact h.steps

end Balance

end ClusterControl
