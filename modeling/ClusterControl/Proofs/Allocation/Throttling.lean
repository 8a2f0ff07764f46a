import ClusterControl.Proofs.Allocation.Refinement
import ClusterControl.Proofs.Allocation.Verdict
import ClusterControl.Proofs.Routing.Tally

/-!
The limits on what goes on at a time. Each step of the allocator adds to the recoveries of the node that it takes
and of the node that the data comes from, and the throttling rule looks at just these counts; so an allocation
leaves no node with more recoveries than the settings allow, or than it had. A step for balance adds one to the
relocations, and the rule on concurrent rebalances keeps their number within its limit in the same way.
-/

namespace ClusterControl

namespace Rules

variable {r : Round} {c : ShardCopy} {node : Node} {source : NodeId}

theorem throttling_initial (h : (throttling.allocate r c node).isYes = true) (hi : isInitialPrimary c = true) :
    r.routing.initialPrimaryRecoveries node.id < r.settings.initialPrimaries := by
  simp only [throttling] at h
  rw [if_pos hi] at h
  split at h
  case isTrue => cases h
  case isFalse hlt => exact Nat.lt_of_not_le hlt

theorem throttling_incoming (h : (throttling.allocate r c node).isYes = true) (hi : isInitialPrimary c = false) :
    r.routing.incomingRecoveries node.id < r.settings.incomingRecoveries := by
  simp only [throttling, hi, Bool.false_eq_true, if_false] at h
  split at h
  case isTrue => cases h
  case isFalse hlt => exact Nat.lt_of_not_le hlt

theorem throttling_outgoing (h : (throttling.allocate r c node).isYes = true) (hi : isInitialPrimary c = false)
    (hs : recoverySourceNode? r c = some source) :
    r.routing.outgoingRecoveries source < r.settings.outgoingRecoveries := by
  simp only [throttling, hi, Bool.false_eq_true, if_false, hs] at h
  split at h
  case isTrue => cases h
  case isFalse =>
    split at h
    case isTrue => cases h
    case isFalse hlt => exact Nat.lt_of_not_le hlt

theorem concurrentRebalance_isYes (h : (concurrentRebalance.rebalanceCopy r c).isYes = true)
    (hl : 0 ≤ r.settings.concurrentRebalance) :
    r.routing.relocatingCount < r.settings.concurrentRebalance.toNat := by
  simp only [concurrentRebalance, Int.not_lt.2 hl, if_false] at h
  split at h
  case isTrue => cases h
  case isFalse hlt => exact Nat.lt_of_not_le hlt

end Rules

/-- No node takes part in more recoveries than it did in the table `t`, or than the settings allow. -/
structure RoutingTable.RecoversWithin (settings : AllocationSettings) (t u : RoutingTable) : Prop where
  incoming : ∀ id, u.incomingRecoveries id ≤ max (t.incomingRecoveries id) settings.incomingRecoveries
  outgoing : ∀ id, u.outgoingRecoveries id ≤ max (t.outgoingRecoveries id) settings.outgoingRecoveries
  initial : ∀ id, u.initialPrimaryRecoveries id ≤ max (t.initialPrimaryRecoveries id) settings.initialPrimaries

namespace RoutingTable

variable {settings : AllocationSettings} {t u v : RoutingTable}

theorem RecoversWithin.refl (settings : AllocationSettings) (t : RoutingTable) : RecoversWithin settings t t :=
  ⟨fun _ => Nat.le_max_left _ _, fun _ => Nat.le_max_left _ _, fun _ => Nat.le_max_left _ _⟩

theorem RecoversWithin.trans (h : RecoversWithin settings t u) (h' : RecoversWithin settings u v) :
    RecoversWithin settings t v := by
  refine ⟨?_, ?_, ?_⟩ <;> intro id
  · exact Nat.le_trans (h'.incoming id) (Nat.max_le.2 ⟨h.incoming id, Nat.le_max_right _ _⟩)
  · exact Nat.le_trans (h'.outgoing id) (Nat.max_le.2 ⟨h.outgoing id, Nat.le_max_right _ _⟩)
  · exact Nat.le_trans (h'.initial id) (Nat.max_le.2 ⟨h.initial id, Nat.le_max_right _ _⟩)

end RoutingTable

namespace Balance

open RoutingTable

variable {chain : Chain} {r next : Round} {c advanced : ShardCopy} {target : Node} {log : List ShardCopy}

namespace Arrival

variable (h : Arrival r c target advanced) (hy : (Rules.throttling.allocate r c target).isYes = true)
include h hy

theorem initial_le (id : NodeId) : (r.routing.update advanced).initialPrimaryRecoveries id ≤
    max (r.routing.initialPrimaryRecoveries id) r.settings.initialPrimaries := by
  refine countP_update_le h.wellFormed h.has h.sameCopy fun hp => .inr ?_
  cases h.lands with
  | assign hu =>
      have hfills : (c.primary && decide (some target.id = some id) && c.source.isSome &&
          decide (c.source ≠ some .peer)) = true := hp
      simp only [Bool.and_eq_true, decide_eq_true_eq, Option.some.injEq] at hfills
      obtain ⟨⟨⟨hprimary, rfl⟩, -⟩, hsource⟩ := hfills
      exact Rules.throttling_initial hy (by simp [Rules.isInitialPrimary, hprimary, hu, hsource])
  | relocate => simp [ShardCopy.relocate, ShardCopy.isInitializing] at hp

theorem incoming_le (id : NodeId) : (r.routing.update advanced).incomingRecoveries id ≤
    max (r.routing.incomingRecoveries id) r.settings.incomingRecoveries := by
  refine countP_update_le h.wellFormed h.has h.sameCopy fun hp => .inr ?_
  cases h.lands with
  | assign =>
      have hfills : (!c.primary && decide (some target.id = some id) || false) = true := hp
      simp only [Bool.or_false, Bool.and_eq_true, Bool.not_eq_true', decide_eq_true_eq, Option.some.injEq] at hfills
      obtain ⟨hreplica, rfl⟩ := hfills
      exact Rules.throttling_incoming hy (by simp [Rules.isInitialPrimary, hreplica])
  | relocate hs =>
      obtain rfl : target.id = id := Option.some.inj (of_decide_eq_true hp)
      have hassigned : c.isUnassigned = false := by simp_all [ShardCopy.isStarted, ShardCopy.isUnassigned]
      exact Rules.throttling_incoming hy (by simp [Rules.isInitialPrimary, hassigned])

theorem outgoing_le (hf : c.Fits) (id : NodeId) : (r.routing.update advanced).outgoingRecoveries id ≤
    max (r.routing.outgoingRecoveries id) r.settings.outgoingRecoveries := by
  -- A primary may move, but it is not elsewhere before it has arrived.
  have hnode : c.isActive = true → advanced.node = c.node := by
    intro ha
    cases h.lands with
    | assign hu => simp_all [ShardCopy.isActive, ShardCopy.isStarted, ShardCopy.isRelocating, ShardCopy.isUnassigned]
    | relocate => rfl
  simp only [outgoingRecoveries, primaryNode?_update h.wellFormed h.has h.lands.advances.lasts hnode]
  refine countP_update_le h.wellFormed h.has h.sameCopy fun hp => .inr ?_
  cases h.lands with
  | assign hu =>
      have hnone : c.node = none := by simpa [hu] using hf.node
      have hreads : (!c.primary && decide (r.routing.primaryNode? c.shard = some id)) = true := hp
      simp only [Bool.and_eq_true, Bool.not_eq_true', decide_eq_true_eq] at hreads
      obtain ⟨hreplica, hleads⟩ := hreads
      have hsource : Rules.recoverySourceNode? r c = some id := by
        rw [Rules.recoverySourceNode?, hnone, hleads]
        rfl
      exact Rules.throttling_outgoing hy (by simp [Rules.isInitialPrimary, hreplica]) hsource
  | relocate hs =>
      have hon : c.node = some id := of_decide_eq_true hp
      have hassigned : c.isUnassigned = false := by simp_all [ShardCopy.isStarted, ShardCopy.isUnassigned]
      exact Rules.throttling_outgoing hy (by simp [Rules.isInitialPrimary, hassigned])
        (by simp [Rules.recoverySourceNode?, hon])

end Arrival

theorem Step.recoversWithin (h : Step chain r next) (ht : Rules.throttling ∈ chain) (hw : r.routing.WellFormed)
    (hf : r.routing.Fits) : RecoversWithin r.settings r.routing next.routing := by
  obtain ⟨c, target, advanced, ha, hy, rfl⟩ := h.arrival hw
  have hrule : (Rules.throttling.allocate r c target).isYes = true := Chain.combine_isYes.1 hy _ ht
  rw [Round.update_routing]
  exact ⟨ha.incoming_le hrule, ha.outgoing_le hrule (hf c ha.has), ha.initial_le hrule⟩

theorem recoversWithin_of_steps (h : Relation.ReflTransGen (Step chain) r next) (ht : Rules.throttling ∈ chain)
    (hw : r.routing.WellFormed) (hf : r.routing.Fits) : RecoversWithin r.settings r.routing next.routing := by
  have hkept := keeps_of_steps (P := fun next => next.settings = r.settings ∧ next.routing.WellFormed ∧
    next.routing.Fits ∧ RecoversWithin r.settings r.routing next.routing) ?_ h ⟨rfl, hw, hf, .refl _ _⟩
  · exact hkept.2.2.2
  · rintro mid next hs ⟨hsettings, hw, hf, hwithin⟩
    have hstep := hs.recoversWithin ht hw hf
    rw [hsettings] at hstep
    exact ⟨hs.settings_eq.trans hsettings, hs.wellFormed hw, hs.fits hw hf, hwithin.trans hstep⟩

/-- One copy more relocates after a step for balance, and only where the limit leaves room for it. -/
theorem Trail.relocating_le (h : Trail (ShiftTurn chain) r log next) (hb : Rules.concurrentRebalance ∈ chain)
    (hw : r.routing.WellFormed) (hlimit : 0 ≤ r.settings.concurrentRebalance) :
    next.routing.relocatingCount ≤ max r.routing.relocatingCount r.settings.concurrentRebalance.toNat := by
  induction h with
  | nil => exact Nat.le_max_left _ _
  | @cons r next c d log hc hs _ ih =>
      have hrule : (Rules.concurrentRebalance.rebalanceCopy r c).isYes = true := by
        cases hs with
        | shifts _ hy => exact Chain.combine_isYes.1 hy _ hb
      have hroom := Rules.concurrentRebalance_isYes hrule hlimit
      have hone : (r.routing.update d).relocatingCount ≤
          max r.routing.relocatingCount r.settings.concurrentRebalance.toNat :=
        countP_update_le hw hc hs.advances.sameCopy fun _ => .inr hroom
      have hrest := ih (by simpa using hw.update d) (by simpa using hlimit)
      rw [Round.update_routing, Round.update_settings] at hrest
      omega

/-- An allocation takes no node over the limits on recoveries, unless it was over them before; and the copies that
move for balance take the number of relocations over its limit just as little, if there is one: a negative limit is
none. -/
theorem allocate_within_limits (chain : Chain) (r : Round) (ht : Rules.throttling ∈ chain)
    (hb : Rules.concurrentRebalance ∈ chain) (hw : r.routing.WellFormed) (hf : r.routing.Fits) :
    RecoversWithin r.settings r.routing (allocate chain r).routing ∧
      (0 ≤ r.settings.concurrentRebalance →
        ((allocate chain r).routing.relocatingCount : Int) ≤
          max ((assignCopies chain (moveCopies chain r)).routing.relocatingCount : Int)
            r.settings.concurrentRebalance) := by
  refine ⟨recoversWithin_of_steps (allocate_steps chain hw) ht hw hf, fun hlimit => ?_⟩
  obtain ⟨moves, hmoves⟩ := moveCopies_pass chain hw
  have hmoved := moveCopies_wellFormed chain hw
  obtain ⟨placements, hplacements⟩ := assignCopies_pass chain hmoved
  have hplaced := assignCopies_wellFormed chain hmoved
  have hsettings : (assignCopies chain (moveCopies chain r)).settings = r.settings :=
    hplacements.trail.settings_eq.trans hmoves.trail.settings_eq
  unfold allocate
  split
  case isTrue hempty =>
    have hr : r.directory.dataNodes = [] := List.isEmpty_iff.1 hempty
    rw [moveCopies_eq hr, assignCopies_eq hr]
    exact Int.le_max_left _ _
  case isFalse =>
    obtain ⟨shifts, hshifts, _⟩ := rebalance_trail chain hplaced
    rw [← hsettings] at hlimit ⊢
    have hle := hshifts.relocating_le hb hplaced hlimit
    omega

/-- What is found to move for balance is on its way when the index has been balanced. -/
theorem rebalanceIndex_has {step : Float} {index : String} (moves : Nat) (hw : r.routing.WellFormed)
    (h : relocation? chain r index step = some (c, target)) :
    (rebalanceIndex chain step index (moves + 1) r).routing.Has (c.relocate target.id) := by
  obtain ⟨hc, hs⟩ := shift_of_relocation? hw h
  have hw' : (r.update (c.relocate target.id)).routing.WellFormed := by simpa using hw.update _
  obtain ⟨log, hlog⟩ := rebalanceIndex_trail chain step index moves hw'
  have hmoving : (r.update (c.relocate target.id)).routing.Has (c.relocate target.id) := by
    rw [Round.update_routing]
    exact hc.update_self hw (ShardCopy.sameCopy_self _)
  rw [rebalanceIndex, h]
  exact ((hlog.mono fun _ _ _ => ShiftTurn.advances).recovering hw' hmoving rfl).1

/-- Two shards on one of two nodes, with a limit on how many may move at a time for balance. -/
def lopsided (limit : Int) : Round :=
  let nodes := (Directory.empty.insert (ClusterState.dataNode "a")).insert (ClusterState.dataNode "b")
  let settings := { Settings.initial.allocation with concurrentRebalance := limit }
  .start (ClusterState.servedBy "b" nodes ⟨"logs", 2, 0, .initial⟩) settings .empty

/-- The first of them on its way to the other node. -/
def evening : ShardCopy :=
  ⟨⟨"logs", 0⟩, 0, true, .relocating, some "b", some "a", none, none⟩

section Lopsided

theorem lopsided_wellFormed (limit : Int) : (lopsided limit).routing.WellFormed :=
  ClusterState.servedBy_wellFormed "b" _ _

theorem lopsided_fits (limit : Int) : (lopsided limit).routing.Fits :=
  ClusterState.servedBy_fits "b" _ _

variable {limit : Int} (h : limit = 1 ∨ limit = -2)
include h

theorem lopsided_idle :
    assignCopies Rules.builtin (moveCopies Rules.builtin (lopsided limit)) = lopsided limit := by
  rcases h with rfl | rfl <;> rfl

/-- Whether the limit is one or negative, a shard moves. -/
theorem lopsided_evens : (allocate Rules.builtin (lopsided limit)).routing.Has evening := by
  have hmay : (Rules.builtin.canRebalance (lopsided limit)).isYes = true := by
    rcases h with rfl | rfl <;> decide +kernel
  have hshares : shares? (lopsided limit).settings.balance =
      some (0.45 / (0.45 + 0.55), 0.55 / (0.45 + 0.55)) :=
    if_pos (by rcases h with rfl | rfl <;> decide +kernel)
  have hfound : relocation? Rules.builtin (lopsided limit) "logs" (0.45 / (0.45 + 0.55) + 0.55 / (0.45 + 0.55)) =
      some (⟨⟨"logs", 0⟩, 0, true, .started, some "b", none, none, none⟩, ClusterState.dataNode "a") := by
    rcases h with rfl | rfl <;> (rw [relocation?, nodesByWeight_eq (by decide +kernel)]; decide +kernel)
  have hnodes : ¬ (lopsided limit).directory.dataNodes.isEmpty = true := by
    rcases h with rfl | rfl <;> decide +kernel
  rw [allocate, if_neg hnodes, lopsided_idle h, rebalance, hmay, hshares]
  exact rebalanceIndex_has 1 (lopsided_wellFormed limit) hfound

theorem lopsided_relocatingCount : (lopsided limit).routing.relocatingCount = 0 ∧
    (assignCopies Rules.builtin (moveCopies Rules.builtin (lopsided limit))).routing.relocatingCount = 0 := by
  rw [lopsided_idle h]
  rcases h with rfl | rfl <;> exact ⟨by decide +kernel, by decide +kernel⟩

end Lopsided

/-- Where one copy may move at a time, one does: the node it leaves and the one it goes to have a recovery more,
within their limits, and there is just one relocation. -/
theorem one_evens_at_a_time :
    Rules.throttling ∈ Rules.builtin ∧ Rules.concurrentRebalance ∈ Rules.builtin ∧
      (lopsided 1).routing.WellFormed ∧ (lopsided 1).routing.Fits ∧
      (lopsided 1).routing.incomingRecoveries "a" = 0 ∧ (lopsided 1).routing.outgoingRecoveries "b" = 0 ∧
      (lopsided 1).routing.relocatingCount = 0 ∧
      let after := (allocate Rules.builtin (lopsided 1)).routing
      (0 < after.incomingRecoveries "a" ∧ after.incomingRecoveries "a" ≤ 2) ∧
        (0 < after.outgoingRecoveries "b" ∧ after.outgoingRecoveries "b" ≤ 2) ∧ after.relocatingCount = 1 := by
  have ht : Rules.throttling ∈ Rules.builtin := by simp [Rules.builtin]
  have hb : Rules.concurrentRebalance ∈ Rules.builtin := by simp [Rules.builtin]
  have hin : (lopsided 1).routing.incomingRecoveries "a" = 0 := by decide +kernel
  have hout : (lopsided 1).routing.outgoingRecoveries "b" = 0 := by decide +kernel
  have hone : (1 : Int) = 1 ∨ (1 : Int) = -2 := .inl rfl
  obtain ⟨hbefore, hbegan⟩ := lopsided_relocatingCount hone
  have hmoves := (lopsided_evens hone).mem_toList
  obtain ⟨hwithin, hrelocating⟩ :=
    allocate_within_limits Rules.builtin (lopsided 1) ht hb (lopsided_wellFormed 1) (lopsided_fits 1)
  refine ⟨ht, hb, lopsided_wellFormed 1, lopsided_fits 1, hin, hout, hbefore, ⟨?_, ?_⟩, ⟨?_, ?_⟩, ?_⟩
  · exact List.countP_pos_iff.2 ⟨evening, hmoves, by decide⟩
  · have hle := hwithin.incoming "a"
    rwa [hin] at hle
  · exact List.countP_pos_iff.2 ⟨evening, hmoves, by decide⟩
  · have hle := hwithin.outgoing "b"
    rwa [hout] at hle
  · have hpos : 0 < (allocate Rules.builtin (lopsided 1)).routing.relocatingCount :=
      List.countP_pos_iff.2 ⟨evening, hmoves, by decide⟩
    have hle := hrelocating (by decide)
    rw [hbegan] at hle
    have hlimit : (lopsided 1).settings.concurrentRebalance = 1 := rfl
    omega

/-- A limit below minus one is not kept to: nothing relocates when the balancing begins, and then a shard does. -/
theorem negative_limit_exceeded :
    Rules.throttling ∈ Rules.builtin ∧ Rules.concurrentRebalance ∈ Rules.builtin ∧
      Rules.replicaAfterPrimaryActive ∈ Rules.builtin ∧
      (lopsided (-2)).routing.WellFormed ∧ (lopsided (-2)).routing.Fits ∧
      (lopsided (-2)).settings.concurrentRebalance ≠ -1 ∧
      ¬ ((allocate Rules.builtin (lopsided (-2))).routing.relocatingCount : Int) ≤
        max ((assignCopies Rules.builtin (moveCopies Rules.builtin (lopsided (-2)))).routing.relocatingCount : Int)
          (lopsided (-2)).settings.concurrentRebalance := by
  refine ⟨by simp [Rules.builtin], by simp [Rules.builtin], by simp [Rules.builtin], lopsided_wellFormed (-2),
    lopsided_fits (-2), by decide, ?_⟩
  have hnegative : (-2 : Int) = 1 ∨ (-2 : Int) = -2 := .inr rfl
  obtain ⟨_, hbegan⟩ := lopsided_relocatingCount hnegative
  have hmoves := (lopsided_evens hnegative).mem_toList
  have hpos : 0 < (allocate Rules.builtin (lopsided (-2))).routing.relocatingCount :=
    List.countP_pos_iff.2 ⟨evening, hmoves, by decide⟩
  have hlimit : (lopsided (-2)).settings.concurrentRebalance = -2 := rfl
  rw [hbegan]
  omega

end Balance

end ClusterControl
