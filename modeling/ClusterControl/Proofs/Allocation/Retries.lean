import ClusterControl.Allocation.Rules.Recovery
import ClusterControl.Proofs.Allocation.Attendance
import ClusterControl.Proofs.Allocation.Upkeep
import ClusterControl.Proofs.Allocation.Verdict

/-!
Retries. A failure is counted only where a copy loses the node that it recovers on or was started on, and the rule
lets a copy have a node only while its count is below the limit of its index; a copy that starts begins anew. So
no count goes beyond the limit, and a copy that has reached it takes no turn any more: it waits in the table as it
is, as long as its index is there.
-/

namespace ClusterControl

namespace ShardCopy

variable {c d : ShardCopy} {limit : Nat}

/-- The copy has failed no more often than the limit says, and less often if it has a node. Failures are forgotten
where it is active. -/
structure Tried (limit : Nat) (c : ShardCopy) : Prop where
  info : c.info.isSome = !c.isActive
  bounded : c.failures ≤ limit
  room : c.isUnassigned = false → c.failures < limit

theorem Turn.tried (h : c.Turn d) (hc : c.Tried limit) : d.Tried limit := by
  cases h with
  | start hr =>
      have hassigned : c.isUnassigned = false := by
        cases hs : c.stage <;> simp_all [isRecovering, isInitializing, isRelocating, isUnassigned]
      exact ⟨rfl, Nat.zero_le limit, fun _ => Nat.lt_of_le_of_lt (Nat.zero_le _) (hc.room hassigned)⟩
  | cancelRelocation hr =>
      have hinfo : c.info.isSome = false := by simp [hc.info, isActive, hr]
      have hassigned : c.isUnassigned = false := by simp_all [isRelocating, isUnassigned]
      exact ⟨hinfo, hc.bounded, fun _ => hc.room hassigned⟩
  | fail message hs =>
      have hassigned : c.isUnassigned = false := by
        rcases hs with hs | hs <;> simp_all [isInitializing, isStarted, isUnassigned]
      exact ⟨rfl, hc.room hassigned, fun hu => absurd hu.symm Bool.false_ne_true⟩
  | leave => exact ⟨rfl, hc.bounded, fun hu => absurd hu.symm Bool.false_ne_true⟩
  | promote | demote => exact ⟨hc.info, hc.bounded, hc.room⟩

theorem tried_of_mem_freshCopies {shard : ShardId} {replicas : Nat} {source : RecoverySource}
    (h : c ∈ RoutingTable.freshCopies shard replicas source) : c.Tried limit := by
  simp only [RoutingTable.freshCopies, List.mem_cons, List.mem_map] at h
  rcases h with rfl | ⟨_, _, rfl⟩ <;> exact ⟨rfl, Nat.zero_le limit, fun hu => absurd hu.symm Bool.false_ne_true⟩

end ShardCopy

namespace Rules

variable {r : Round} {c : ShardCopy} {node : Node} {index : Index}

theorem maxRetry_isYes (h : (maxRetry.allocate r c node).isYes = true) (hinfo : c.info.isSome = true)
    (hi : r.indexOf? c = some index) : c.failures < index.settings.maxRetries := by
  obtain ⟨info, he⟩ := Option.isSome_iff_exists.1 hinfo
  simp only [maxRetry, he, hi] at h
  rw [ShardCopy.failures, he]
  split at h
  case isTrue => cases h
  case isFalse hlt => exact Nat.lt_of_not_le hlt

end Rules

namespace Balance

variable {chain : Chain} {r next : Round} {c advanced : ShardCopy} {target : Node} {limit : Nat}

theorem Lands.tried (h : Lands target c advanced) (hc : c.Tried limit)
    (hroom : c.info.isSome = true → c.failures < limit) : advanced.Tried limit := by
  cases h with
  | assign hu =>
      have hinfo : c.info.isSome = true := by simp [hc.info, ShardCopy.isActive_of_isUnassigned hu]
      exact ⟨hinfo, hc.bounded, fun _ => hroom hinfo⟩
  | relocate hs =>
      have hinfo : c.info.isSome = false := by simp [hc.info, ShardCopy.isActive, hs]
      have hassigned : c.isUnassigned = false := by simp_all [ShardCopy.isStarted, ShardCopy.isUnassigned]
      exact ⟨hinfo, hc.bounded, fun _ => hc.room hassigned⟩

end Balance

namespace RoutingTable

/-- Every copy belongs to an index, and was tried no more often than that index lets it. -/
def Tried (indices : IndexTable) (t : RoutingTable) : Prop :=
  ∀ c, t.Has c → ∃ index, indices.find? c.shard.index = some index ∧ c.Tried index.settings.maxRetries

end RoutingTable

theorem Chain.upkeep_tried {chain : Chain} (hm : Rules.maxRetry ∈ chain) :
    chain.Upkeep (fun _ => True) RoutingTable.Tried := by
  refine ⟨?_, ?_, ?_, ?_⟩
  · intro indices c hc
    exact absurd hc RoutingTable.not_has_empty
  · intro s altered plan hr ha h c hc
    have hw : altered.routing.WellFormed := ha.routing_eq ▸ hr.1.wellFormed
    rcases ClusterState.has_aligned_cases hw hc with ⟨hold, hi⟩ | ⟨index, hi, hn, hfresh⟩
    · obtain ⟨index, hfound, ht⟩ := h c (ha.routing_eq ▸ hold)
      exact ⟨index, ha.find?_eq hfound hi, ht⟩
    · exact ⟨index, SortedBy.find?_eq_some_iff.2 ⟨hi, hn⟩, ShardCopy.tried_of_mem_freshCopies hfresh⟩
  · intro indices t u hages _ h d hd
    obtain ⟨c, hc, hcd⟩ := hages d hd
    obtain ⟨index, hfound, ht⟩ := h c hc
    have hshard : c.shard = d.shard := (ShardCopy.sameCopy_iff.1 hcd.yields.same).1
    exact ⟨index, hshard ▸ hfound, hcd.keeps (fun _ _ hturn => hturn.tried) ht⟩
  · intro r next _ hs hw _ h d hd
    obtain ⟨c, target, advanced, ha, hy, rfl⟩ := hs.arrival hw
    rw [Round.update_routing] at hd
    rcases (ha.has.update_iff hw ha.sameCopy).1 hd with rfl | ⟨hd, _⟩
    · obtain ⟨index, hfound, ht⟩ := h c ha.has
      have hrule : (Rules.maxRetry.allocate r c target).isYes = true := Chain.combine_isYes.1 hy _ hm
      exact ⟨index, ha.shard_eq ▸ hfound, ha.lands.tried ht fun hinfo => Rules.maxRetry_isYes hrule hinfo hfound⟩
    · exact h d hd

section Waiting

variable {chain : Chain} {service : AllocationService} {settings : Settings} {s next later : ClusterState}
  {c : ShardCopy} {index : Index}

/-- The copy waits for a node, and has failed as often as the limit says. -/
structure ShardCopy.Exhausted (limit : Nat) (c : ShardCopy) : Prop where
  waits : c.isUnassigned = true
  info : c.info.isSome = true
  spent : limit ≤ c.failures

variable (hm : Rules.maxRetry ∈ chain) (hx : c.Exhausted index.settings.maxRetries)
include hm hx

theorem Balance.Step.keeps_exhausted {r next : Round} (h : Step chain r next) (hw : r.routing.WellFormed)
    (hi : r.indexOf? c = some index) (hc : r.routing.Has c) : next.routing.Has c := by
  obtain ⟨d, target, advanced, ha, hy, rfl⟩ := h.arrival hw
  rw [Round.update_routing]
  have hne : c ≠ d := by
    rintro rfl
    have hrule : (Rules.maxRetry.allocate r c target).isYes = true := Chain.combine_isYes.1 hy _ hm
    exact absurd hx.spent (Nat.not_le_of_lt (Rules.maxRetry_isYes hrule hx.info hi))
  refine hc.update_of_ne hw ?_
  rw [ShardCopy.sameCopy_comm, ← ShardCopy.sameCopy_congr ha.sameCopy, ShardCopy.sameCopy_comm]
  exact hc.not_sameCopy ha.has hne

namespace AllocationService

theorem Step.keeps_exhausted (h : service.Step settings s next) (hb : service.Balances chain settings) (hs : s.Sound)
    (hi : s.indices.find? c.shard.index = some index) (hknown : next.indices.contains c.shard.index = true)
    (hc : s.routing.Has c) : next.indices.find? c.shard.index = some index ∧ next.routing.Has c := by
  obtain ⟨reported, altered, r, hstages, rfl⟩ := h.stages hb hs
  have hfound : altered.indices.find? c.shard.index = some index := hstages.alters.find?_eq hi hknown
  refine ⟨hfound, ?_⟩
  have haltered : altered.routing.Has c := hstages.alters.routing_eq ▸ hstages.waits c hc hx.waits
  have hsettled : (altered.aligned.settled altered.directory).Has c := RoutingTable.has_settled
    (hstages.aligned_wellFormed hs) (hstages.aligned_fits hs) (ClusterState.has_aligned haltered hknown) hx.waits
  obtain ⟨info, hsteps⟩ := hstages.course
  have hkept := Balance.keeps_of_steps
    (P := fun r => r.routing.WellFormed ∧ r.indexOf? c = some index ∧ r.routing.Has c) ?_ hsteps
    ⟨hstages.settled_wellFormed hs, hfound, hsettled⟩
  · exact hkept.2.2
  · rintro r next h ⟨hw, hi, hc⟩
    have hnext : next.indexOf? c = some index := by
      rw [Round.indexOf?, Round.index?, h.state_eq]
      exact hi
    exact ⟨h.wellFormed hw, hnext, h.keeps_exhausted hm hx hw hi hc⟩

end AllocationService

/-- Steps of the service after each of which the index of that name is there. -/
def Chain.LeadsKeeping (chain : Chain) (name : String) : ClusterState → ClusterState → Prop :=
  Relation.ReflTransGen fun s next => next.indices.contains name = true ∧
    ∃ (service : AllocationService) (settings : Settings), service.Balances chain settings ∧
      service.Step settings s next

theorem Chain.Reaches.keeps_exhausted (h : chain.Reaches s) (hi : s.index? c.shard.index = some index)
    (hc : s.routing.Has c) (hl : chain.LeadsKeeping c.shard.index s later) : later.routing.Has c := by
  have hkept : chain.Reaches later ∧ later.indices.find? c.shard.index = some index ∧ later.routing.Has c := by
    induction hl with
    | refl => exact ⟨h, hi, hc⟩
    | tail _ hs ih =>
        obtain ⟨hknown, service, settings, hb, hs⟩ := hs
        obtain ⟨hreached, hi, hc⟩ := ih
        exact ⟨hreached.step hb hs, hs.keeps_exhausted hm hx hb hreached.sound hi hknown hc⟩
  exact hkept.2.2

end Waiting

open AllocationService in
/-- No copy fails more often than its index lets it: a copy that has failed so often waits from then on as it is,
as long as the index is there. A failure is counted only for a copy with a node, also by the later ones of a list
of reports, and the count stays within the limit then too. -/
theorem Chain.Reaches.retries_bounded {chain : Chain} {s : ClusterState} (h : chain.Reaches s)
    (hm : Rules.maxRetry ∈ chain) :
    (∀ c, s.routing.Has c → ∃ index, s.index? c.shard.index = some index ∧
      c.failures ≤ index.settings.maxRetries ∧ (index.settings.maxRetries ≤ c.failures → c.isUnassigned = true ∧
        ∀ later, chain.LeadsKeeping c.shard.index s later → later.routing.Has c)) ∧
    ∀ (failed : List Failure) (t : RoutingTable), failed.foldlM (applyFailure s.directory) s.routing = .ok t →
      ∀ c, t.Has c → c.isUnassigned = false →
        ∃ index, s.index? c.shard.index = some index ∧ c.failures + 1 ≤ index.settings.maxRetries := by
  have hu := Chain.upkeep_tried hm
  have htried : s.routing.Tried s.indices := h.under.holds hu
  refine ⟨fun c hc => ?_, fun failed t ht c hc hassigned => ?_⟩
  · obtain ⟨index, hi, htc⟩ := htried c hc
    refine ⟨index, hi, htc.bounded, fun hspent => ?_⟩
    have hwaits : c.isUnassigned = true := by
      by_contra hassigned
      exact Nat.not_le_of_lt (htc.room (by simpa using hassigned)) hspent
    have hinfo : c.info.isSome = true := by simp [htc.info, ShardCopy.isActive_of_isUnassigned hwaits]
    exact ⟨hwaits, fun later hl => h.keeps_exhausted hm ⟨hwaits, hinfo, hspent⟩ hi hc hl⟩
  · obtain ⟨hw, hages⟩ := applyFailures_age h.sound.wellFormed ht
    obtain ⟨index, hi, htc⟩ := hu.ages hages hw htried c hc
    exact ⟨index, hi, htc.room hassigned⟩

namespace ClusterState

open AllocationService

/-- An index whose copies are tried once. -/
def logsTriedOnce : Index :=
  ⟨"logs", 1, 0, { IndexSettings.initial with maxRetries := 1 }⟩

/-- It is created, and its primary fails where it recovers. -/
def logsFailed : Except AllocationError ClusterState :=
  builtin.applyFailed .initial (builtin.reconcile .initial (alone.putIndex logsTriedOnce))
    [⟨.placeholder ⟨"logs", 0⟩ 0, "disk"⟩]

def retired : ShardCopy :=
  ⟨⟨"logs", 0⟩, 0, true, .unassigned, none, none, some .emptyStore, some ⟨.allocationFailed, 1, some "disk"⟩⟩

theorem retired_waits : ∃ s, logsFailed = .ok s ∧ Rules.builtin.Reaches s ∧ Rules.maxRetry ∈ Rules.builtin ∧
    s.index? "logs" = some logsTriedOnce ∧ s.routing.Has retired ∧ retired.failures ≤ 1 ∧
    ∀ later, Rules.builtin.LeadsKeeping "logs" s later → later.routing.Has retired := by
  have hrun : logsFailed.toOption.map (fun s => (s.index? "logs", decide (s.routing.Has retired))) =
      some (some logsTriedOnce, true) := by decide +kernel
  obtain ⟨s, hs, hfound⟩ := ok_of_map hrun
  obtain ⟨hi, hc⟩ := Prod.ext_iff.1 hfound
  have hm : Rules.maxRetry ∈ Rules.builtin := by simp [Rules.builtin]
  have hcreated : Rules.builtin.Reaches (builtin.reconcile .initial (alone.putIndex logsTriedOnce)) :=
    .step (.start (s := alone) rfl) builtin_balances (builtin_balances.step_reconcile (.create _ rfl rfl rfl))
  have hreached := hcreated.step builtin_balances (.failed _ hs)
  obtain ⟨index, hindex, hle, hspent⟩ := (hreached.retries_bounded hm).1 retired (of_decide_eq_true hc)
  cases hi.symm.trans hindex
  exact ⟨s, hs, hreached, hm, hi, of_decide_eq_true hc, hle, (hspent (Nat.le_refl 1)).2⟩

end ClusterState

end ClusterControl
