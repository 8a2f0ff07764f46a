import ClusterControl.Proofs.Allocation.Attendance
import ClusterControl.Proofs.Allocation.Verdict
import ClusterControl.Proofs.Settings.Validity
import Mathlib.Algebra.GroupWithZero.Nat
import Mathlib.Algebra.Order.BigOperators.Group.List
import Mathlib.Algebra.Order.Group.Nat

/-!
Disks in one round. The rule on disks looks at the usage that was reported and at the size of the copy at hand, and at
no other copy. So each copy that a round places on a node leaves the disk below the high watermark when it comes alone;
copies that come together may fill it, up to as many times the space that was left as there are copies.
-/

namespace ClusterControl

/-- The size of a copy, nothing where its shard has no known size. -/
def ClusterInfo.knownSize (info : ClusterInfo) (c : ShardCopy) : Nat :=
  (info.sizes.get? c.shard).getD 0

def ClusterInfo.totalSize (info : ClusterInfo) (copies : List ShardCopy) : Nat :=
  (copies.map info.knownSize).sum

/-- With that many bytes more the usage does not reach the high watermark. -/
def DiskSettings.Spares (disk : DiskSettings) (usage : DiskUsage) (extra : Nat) : Prop :=
  ¬ disk.high ≤ usage.percentWith extra

instance (disk : DiskSettings) (usage : DiskUsage) (extra : Nat) : Decidable (disk.Spares usage extra) :=
  inferInstanceAs (Decidable (¬ disk.high ≤ usage.percentWith extra))

namespace RoutingTable

variable {before after : RoutingTable} {c : ShardCopy} {id : NodeId}

/-- The copies that initialize on a node or relocate to it, and did not in the table before. -/
def placedOn (before after : RoutingTable) (id : NodeId) : List ShardCopy :=
  (before.renewed after).filter fun c => c.isInitializing && c.isOn id || c.isRelocating && c.isMovingTo id

/-- Each copy that the first table does not have as it is here leaves the disk of its node below the high watermark
when it comes alone. -/
def FitsAlone (disk : DiskSettings) (info : ClusterInfo) (before after : RoutingTable) : Prop :=
  ∀ c, after.Has c → ¬ before.Has c → ∀ id usage, c.destination = some id → info.disks.get? id = some usage →
    disk.Spares usage (info.knownSize c)

theorem destination_of_mem_placedOn (h : c ∈ before.placedOn after id) : c.destination = some id := by
  have hc := (List.mem_filter.1 h).2
  simp only [Bool.and_eq_true, Bool.or_eq_true, ShardCopy.isOn, ShardCopy.isMovingTo, decide_eq_true_eq] at hc
  rcases hc with ⟨hi, hn⟩ | ⟨hr, ht⟩
  · have hr : c.isRelocating = false := by simp_all [ShardCopy.isInitializing, ShardCopy.isRelocating]
    simpa [ShardCopy.destination, hr] using hn
  · simpa [ShardCopy.destination, hr] using ht

theorem FitsAlone.placed {disk : DiskSettings} {info : ClusterInfo} {usage : DiskUsage}
    (h : FitsAlone disk info before after) (hw : after.WellFormed) (hu : info.disks.get? id = some usage)
    (hc : c ∈ before.placedOn after id) : disk.Spares usage (info.knownSize c) := by
  obtain ⟨hhas, hnew⟩ := (mem_renewed hw).1 (List.mem_filter.1 hc).1
  exact h c hhas hnew id usage (destination_of_mem_placedOn hc) hu

end RoutingTable

namespace Rules

variable {r : Round} {c : ShardCopy} {node : Node} {usage : DiskUsage}

theorem diskThreshold_spares (hy : (diskThreshold.allocate r c node).isYes = true)
    (he : r.settings.disk.thresholdEnabled = true) (hu : r.info.disks.get? node.id = some usage) :
    r.settings.disk.Spares usage (r.info.knownSize c) := by
  simp only [diskThreshold, he, Bool.not_true, Bool.false_eq_true, if_false, hu] at hy
  split at hy
  case isTrue => cases hy
  case isFalse =>
    split at hy
    case isTrue => cases hy
    case isFalse =>
      split at hy
      case isTrue => cases hy
      case isFalse hbelow => exact hbelow

end Rules

/-- Of numbers among which at most one is not zero the sum is one of them. -/
theorem sum_mem_of_countP_le_one {sizes : List Nat} (hne : sizes ≠ []) (h : sizes.countP (0 < ·) ≤ 1) :
    sizes.sum ∈ sizes := by
  induction sizes with
  | nil => exact absurd rfl hne
  | cons size sizes ih =>
      rw [List.sum_cons]
      rcases Nat.eq_zero_or_pos size with rfl | hpos
      · cases sizes with
        | nil => simp
        | cons other sizes =>
            rw [Nat.zero_add]
            exact List.mem_cons_of_mem 0 (ih (List.cons_ne_nil _ _) (by simpa using h))
      · have hrest : sizes.countP (0 < ·) = 0 := by
          rw [List.countP_cons_of_pos (by simpa using hpos)] at h
          omega
        have hzero : sizes.sum = 0 :=
          List.sum_eq_zero fun other ho => by simpa using List.countP_eq_zero.1 hrest other ho
        rw [hzero, Nat.add_zero]
        exact List.mem_cons_self

namespace Balance

open RoutingTable

variable {chain : Chain} {r next : Round} {t : RoutingTable}

theorem Step.info_eq (h : Step chain r next) : next.info = r.info := by
  obtain ⟨_, advanced, _, _, rfl⟩ := h.advances
  exact Round.update_info r advanced

section Rule

variable (hm : Rules.diskThreshold ∈ chain) (he : r.settings.disk.thresholdEnabled = true) (hw : r.routing.WellFormed)
include hm he hw

theorem Step.fitsAlone (h : Step chain r next) (ht : FitsAlone r.settings.disk r.info t r.routing) :
    FitsAlone r.settings.disk r.info t next.routing := by
  obtain ⟨c, target, advanced, ha, hy, rfl⟩ := h.arrival hw
  intro d hd hnew id usage hdestination hu
  rw [Round.update_routing] at hd
  rcases (ha.has.update_iff hw ha.sameCopy).1 hd with rfl | ⟨hd, _⟩
  · obtain rfl : target.id = id := Option.some.inj (ha.destination_eq.symm.trans hdestination)
    have hsize : r.info.knownSize d = r.info.knownSize c := by
      rw [ClusterInfo.knownSize, ha.shard_eq, ClusterInfo.knownSize]
    rw [hsize]
    exact Rules.diskThreshold_spares (Chain.combine_isYes.1 hy _ hm) he hu
  · exact ht d hd hnew id usage hdestination hu

theorem allocate_fitsAlone : (allocate chain r).routing.WellFormed ∧
    FitsAlone r.settings.disk r.info r.routing (allocate chain r).routing := by
  have hkept := keeps_of_steps (P := fun next => next.settings = r.settings ∧ next.info = r.info ∧
    next.routing.WellFormed ∧ FitsAlone r.settings.disk r.info r.routing next.routing) ?_ (allocate_steps chain hw)
    ⟨rfl, rfl, hw, fun c hc hnew => absurd hc hnew⟩
  · exact hkept.2.2
  · rintro mid next h ⟨hsettings, hinfo, hwf, hfits⟩
    rw [← hsettings, ← hinfo] at hfits ⊢
    exact ⟨h.settings_eq, h.info_eq, h.wellFormed hwf, h.fitsAlone hm (hsettings ▸ he) hwf hfits⟩

/-- Each copy that an allocation places on a node leaves the disk there below the high watermark when it comes alone.
So they all do together where at most one of them has a known size; and however many have one, their sizes come to no
more than as many times the space that was left below the watermark. -/
theorem placed_copies_fit_alone {id : NodeId} {usage : DiskUsage} (hu : r.info.disks.get? id = some usage) :
    let placed := r.routing.placedOn (allocate chain r).routing id
    (∀ c ∈ placed, r.settings.disk.Spares usage (r.info.knownSize c)) ∧
    (placed ≠ [] → placed.countP (fun c => 0 < r.info.knownSize c) ≤ 1 →
      r.settings.disk.Spares usage (r.info.totalSize placed)) ∧
    ∀ space, (∀ extra, r.settings.disk.Spares usage extra → extra ≤ space) →
      r.info.totalSize placed ≤ placed.length * space := by
  intro placed
  obtain ⟨hwf, hfits⟩ := allocate_fitsAlone hm he hw
  have halone : ∀ size ∈ placed.map r.info.knownSize, r.settings.disk.Spares usage size :=
    List.forall_mem_map.2 fun c hc => hfits.placed hwf hu hc
  refine ⟨List.forall_mem_map.1 halone, fun hne hone => ?_, fun space hspace => ?_⟩
  · refine halone _ (sum_mem_of_countP_le_one (mt List.map_eq_nil_iff.1 hne) ?_)
    rw [List.countP_map]
    exact hone
  · have hsum := List.sum_le_card_nsmul _ space fun size hs => hspace size (halone size hs)
    rwa [List.length_map] at hsum

end Rule

/-- Two shards of a new index and one node, on a disk of 100 bytes that is empty. -/
def emptyDisk (sizes : Dictionary ShardId Nat) : Round :=
  let routed := ClusterState.alone.putIndex ⟨"logs", 2, 0, .initial⟩
  .start { routed with routing := routed.aligned } Settings.initial.allocation
    ⟨Dictionary.put .empty "a" ⟨100, 100⟩, sizes⟩

theorem emptyDisk_wellFormed (sizes : Dictionary ShardId Nat) : (emptyDisk sizes).routing.WellFormed :=
  ClusterState.aligned_wellFormed RoutingTable.wellFormed_empty

/-- Both shards are estimated at half of the disk. -/
def twoHalves : Dictionary ShardId Nat :=
  Dictionary.put (Dictionary.put .empty ⟨"logs", 0⟩ 50) ⟨"logs", 1⟩ 50

/-- Only one of them is. -/
def oneHalf : Dictionary ShardId Nat :=
  Dictionary.put .empty ⟨"logs", 0⟩ 50

/-- Each half fits, and with both of them nothing is left of the disk. -/
theorem two_halves_fill_disk :
    (emptyDisk twoHalves).routing.WellFormed ∧ (emptyDisk twoHalves).settings.disk.WellFormed ∧
      (emptyDisk twoHalves).settings.disk.thresholdEnabled = true ∧
      (emptyDisk twoHalves).info.disks.get? "a" = some ⟨100, 100⟩ ∧
      let placed := (emptyDisk twoHalves).routing.placedOn (allocate Rules.builtin (emptyDisk twoHalves)).routing "a"
      placed.map (emptyDisk twoHalves).info.knownSize = [50, 50] ∧
        ¬ (emptyDisk twoHalves).settings.disk.Spares ⟨100, 100⟩ ((emptyDisk twoHalves).info.totalSize placed) := by
  refine ⟨emptyDisk_wellFormed _, Settings.wellFormed_initial.disk, rfl, rfl, ?_⟩
  intro placed
  have hsizes : placed.map (emptyDisk twoHalves).info.knownSize = [50, 50] := by decide +kernel
  refine ⟨hsizes, ?_⟩
  rw [ClusterInfo.totalSize, hsizes]
  decide +kernel

theorem one_half_fits :
    Rules.diskThreshold ∈ Rules.builtin ∧ (emptyDisk oneHalf).settings.disk.thresholdEnabled = true ∧
      (emptyDisk oneHalf).routing.WellFormed ∧ (emptyDisk oneHalf).info.disks.get? "a" = some ⟨100, 100⟩ ∧
      let placed := (emptyDisk oneHalf).routing.placedOn (allocate Rules.builtin (emptyDisk oneHalf)).routing "a"
      placed.length = 2 ∧ placed.countP (fun c => 0 < (emptyDisk oneHalf).info.knownSize c) = 1 ∧
        (emptyDisk oneHalf).settings.disk.Spares ⟨100, 100⟩ ((emptyDisk oneHalf).info.totalSize placed) := by
  have hm : Rules.diskThreshold ∈ Rules.builtin := by simp [Rules.builtin]
  have hw := emptyDisk_wellFormed oneHalf
  have hu : (emptyDisk oneHalf).info.disks.get? "a" = some ⟨100, 100⟩ := rfl
  refine ⟨hm, rfl, hw, hu, ?_⟩
  intro placed
  have hlength : placed.length = 2 := by decide +kernel
  have hone : placed.countP (fun c => 0 < (emptyDisk oneHalf).info.knownSize c) = 1 := by decide +kernel
  have hne : placed ≠ [] := List.ne_nil_of_length_pos (by omega)
  obtain ⟨_, htotal, _⟩ := placed_copies_fit_alone hm rfl hw hu
  exact ⟨hlength, hone, htotal hne (Nat.le_of_eq hone)⟩

end Balance

end ClusterControl
