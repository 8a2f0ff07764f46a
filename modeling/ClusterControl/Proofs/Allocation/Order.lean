import ClusterControl.Proofs.Allocation.Attendance
import ClusterControl.Proofs.Allocation.Checks
import ClusterControl.Proofs.Allocation.Upkeep

/-!
Copies in order. A copy has the nodes that its stage calls for; until it is active it says where it gets its data
from and why it was unassigned, and its source is another copy exactly if it is a replica. A promotion leaves the
source as it is, and a demotion sets it for an unassigned copy only: but the copy promoted is active, and the one
demoted has lost its node. So in every state of a run all copies are in order, and no check of the allocator fails.
-/

namespace ClusterControl

namespace ShardCopy

variable {c d : ShardCopy}

/-- What the stage and the role of a copy say of its nodes, its source and its past. -/
structure InOrder (c : ShardCopy) : Prop where
  fits : c.Fits
  source : c.source.isSome = !c.isActive
  info : c.info.isSome = !c.isActive
  peer : c.isActive = false → (c.source = some .peer ↔ c.primary = false)

theorem InOrder.unassign (h : c.InOrder) (info : UnassignedInfo) : (c.unassign info).InOrder := by
  refine ⟨⟨rfl, rfl⟩, rfl, rfl, fun _ => ?_⟩
  cases hp : c.primary with
  | false => simp [ShardCopy.unassign, hp]
  | true =>
      -- The source of an active primary is used up, and another one has not come from a peer.
      cases ha : c.isActive with
      | true => cases hs : c.source <;> simp [ShardCopy.unassign, hp, ha, hs]
      | false =>
          have hpeer : c.source ≠ some .peer := by
            intro hs
            rw [(h.peer ha).1 hs] at hp
            cases hp
          cases hs : c.source <;> simp_all [ShardCopy.unassign]

theorem Turn.inOrder (h : c.Turn d) (hc : c.InOrder) : d.InOrder := by
  have hfits : d.Fits := h.yields.fits hc.fits
  cases h with
  | start => exact ⟨hfits, rfl, rfl, fun ha => absurd ha.symm Bool.false_ne_true⟩
  | cancelRelocation hr =>
      have ha : c.cancelRelocation.isActive = c.isActive := (lasts_cancelRelocation hr).active
      exact ⟨hfits, ha ▸ hc.source, ha ▸ hc.info, ha ▸ hc.peer⟩
  | fail | leave => exact hc.unassign _
  | promote hp ha => exact ⟨hfits, hc.source, hc.info, fun hidle => absurd (hidle.symm.trans ha) Bool.false_ne_true⟩
  | demote hp hu =>
      have ha : c.demote.isActive = false := isActive_of_isUnassigned hu
      have hs : c.demote.source = some .peer := by simp [ShardCopy.demote, hu]
      exact ⟨hfits, by rw [hs, ha]; rfl, hc.info, fun _ => iff_of_true hs rfl⟩

theorem inOrder_of_mem_freshCopies {shard : ShardId} {replicas : Nat} {source : RecoverySource}
    (h : c ∈ RoutingTable.freshCopies shard replicas source) (hs : source ≠ .peer) : c.InOrder := by
  have hfits : c.Fits := (RoutingTable.vacant_of_mem_freshCopies h).fits
  simp only [RoutingTable.freshCopies, List.mem_cons, List.mem_map] at h
  rcases h with rfl | ⟨_, _, rfl⟩
  · exact ⟨hfits, rfl, rfl, fun _ => by simp [fresh, hs]⟩
  · exact ⟨hfits, rfl, rfl, fun _ => by simp [fresh]⟩

end ShardCopy

theorem Balance.Advances.inOrder {c advanced : ShardCopy} (h : Advances c advanced) (hc : c.InOrder) :
    advanced.InOrder := by
  have hfits : advanced.Fits := h.fits hc.fits
  have ha : advanced.isActive = c.isActive := h.lasts.active
  cases h with
  | assign | relocate => exact ⟨hfits, ha ▸ hc.source, ha ▸ hc.info, ha ▸ hc.peer⟩

theorem Index.primarySource_ne_peer (index : Index) : index.primarySource ≠ .peer := by
  unfold Index.primarySource
  split <;> simp

namespace RoutingTable

def InOrder (t : RoutingTable) : Prop :=
  ∀ c, t.Has c → c.InOrder

theorem Ages.inOrder {t u : RoutingTable} (h : t.Ages u) (ht : t.InOrder) : u.InOrder := by
  intro d hd
  obtain ⟨c, hc, hcd⟩ := h d hd
  exact hcd.keeps (fun _ _ hturn => hturn.inOrder) (ht c hc)

end RoutingTable

theorem Chain.upkeep_inOrder (chain : Chain) : chain.Upkeep (fun _ => True) fun _ t => t.InOrder := by
  refine ⟨?_, ?_, ?_, ?_⟩
  · intro indices c hc
    exact absurd hc RoutingTable.not_has_empty
  · intro s altered plan hr ha h c hc
    have hw : altered.routing.WellFormed := ha.routing_eq ▸ hr.1.wellFormed
    rcases ClusterState.has_aligned_cases hw hc with ⟨hold, _⟩ | ⟨index, _, _, hfresh⟩
    · exact h c (ha.routing_eq ▸ hold)
    · exact ShardCopy.inOrder_of_mem_freshCopies hfresh index.primarySource_ne_peer
  · intro indices t u hages _ h
    exact hages.inOrder h
  · intro r next _ hs hw _ h d hd
    obtain ⟨c, advanced, hc, ha, rfl⟩ := hs.advances
    rw [Round.update_routing] at hd
    rcases (hc.update_iff hw ha.sameCopy).1 hd with rfl | ⟨hd, _⟩
    · exact ha.inOrder (h c hc)
    · exact h d hd

/-- What a step from a state reroutes: the state altered, or with the reports taken in. -/
inductive ClusterState.Takes (s : ClusterState) : ClusterState → Prop
  | altered {altered : ClusterState} (ha : s.Alters altered) : Takes s altered
  | started {routing : RoutingTable} (started : List ShardCopy)
      (h : started.foldlM AllocationService.applyStart s.routing = .ok routing) : Takes s { s with routing }
  | failed {routing : RoutingTable} (failed : List Failure)
      (h : failed.foldlM (AllocationService.applyFailure s.directory) s.routing = .ok routing) :
      Takes s { s with routing }

theorem ClusterState.Takes.ages {s given : ClusterState} (h : s.Takes given) (hw : s.routing.WellFormed) :
    given.routing.WellFormed ∧ s.routing.Ages given.routing := by
  cases h with
  | altered ha => exact ⟨ha.routing_eq ▸ hw, ha.routing_eq ▸ .refl _⟩
  | started started h => exact AllocationService.applyStarts_age hw h
  | failed failed h => exact AllocationService.applyFailures_age hw h

/-- In every state of a run all copies are in order, also while reports are taken in; and in every step from there no
check of the allocator fails: the reroute comes to the same with the checks as without. -/
theorem Chain.Reaches.copies_in_order {chain : Chain} {s : ClusterState} (h : chain.Reaches s) :
    (∀ c ∈ s.routing.toList, c.InOrder) ∧
      ∀ (service : AllocationService) (settings : Settings), service.Balances chain settings →
        ∀ given, s.Takes given → (∀ c ∈ given.routing.toList, c.InOrder) ∧
          ∃ rerouted, service.reroute settings given = .ok rerouted ∧
            service.checkedReroute settings given = some rerouted := by
  have hw : s.routing.WellFormed := h.sound.wellFormed
  have horder : s.routing.InOrder := h.under.holds chain.upkeep_inOrder
  refine ⟨fun c hc => horder c (hw.has_of_mem_toList hc), fun service settings hb given ht => ?_⟩
  obtain ⟨hgiven, hages⟩ := ht.ages hw
  refine ⟨fun c hc => hages.inOrder horder c (hgiven.has_of_mem_toList hc), ?_⟩
  exact AllocationService.checkedReroute_eq hb hgiven (hages.yields.fits h.sound.fits)

namespace ClusterState

open AllocationService

/-- Another node joins and takes over from the only one, and an index is created. -/
def relieved (s : ClusterState) : ClusterState :=
  { s with directory := (Directory.empty.insert (Node.bare "a" "a")).insert (dataNode "b") }.putIndex
    ⟨"more", 1, 0, .initial⟩

/-- The first node is excluded from now on. -/
def excludingFirst : Settings :=
  let filters := { AllocationFilters.empty with excluded := ⟨Dictionary.put .empty "_id" ["a"]⟩ }
  { Settings.initial with allocation := { Settings.initial.allocation with filters } }

/-- In one reroute the started copy begins to move and the new one is assigned, and the checks on both pass. -/
theorem relieved_in_order :
    ∃ s, builtin.applyStarted .initial (logsAlone 0) [.placeholder ⟨"logs", 0⟩ 0] = .ok s ∧
      Rules.builtin.Reaches s ∧ s.Takes (relieved s) ∧ builtin.Balances Rules.builtin excludingFirst ∧
      (∀ c ∈ s.routing.toList, c.InOrder) ∧ (∀ c ∈ (relieved s).routing.toList, c.InOrder) ∧
      ∃ rerouted, builtin.reroute excludingFirst (relieved s) = .ok rerouted ∧
        builtin.checkedReroute excludingFirst (relieved s) = some rerouted ∧
        (rerouted.stateFrom (relieved s)).routing.toList =
          [⟨⟨"logs", 0⟩, 0, true, .relocating, some "a", some "b", none, none⟩,
            ⟨⟨"more", 0⟩, 0, true, .initializing, some "b", none, some .emptyStore, some (.fresh .indexCreated)⟩] := by
  have hrun : (builtin.applyStarted .initial (logsAlone 0) [.placeholder ⟨"logs", 0⟩ 0]).toOption.map (fun s =>
      (decide (s.index? "more" = none), (builtin.reroute excludingFirst (relieved s)).toOption.map fun rerouted =>
        (rerouted.stateFrom (relieved s)).routing.toList)) =
      some (true, some [⟨⟨"logs", 0⟩, 0, true, .relocating, some "a", some "b", none, none⟩,
        ⟨⟨"more", 0⟩, 0, true, .initializing, some "b", none, some .emptyStore, some (.fresh .indexCreated)⟩]) := by
    decide +kernel
  obtain ⟨s, hs, hrun⟩ := ok_of_map hrun
  obtain ⟨hnew, hrerouted⟩ := Prod.ext_iff.1 hrun
  have hreached : Rules.builtin.Reaches s := (logsAlone_reached 0).reaches.step builtin_balances (.started _ hs)
  have hb : builtin.Balances Rules.builtin excludingFirst := ⟨rfl, rfl⟩
  have htakes : s.Takes (relieved s) := .altered (.create ⟨"more", 1, 0, .initial⟩ (of_decide_eq_true hnew) rfl rfl)
  obtain ⟨horder, hsteps⟩ := hreached.copies_in_order
  obtain ⟨hgiven, rerouted, hr, hchecked⟩ := hsteps _ _ hb _ htakes
  rw [hr] at hrerouted
  exact ⟨s, hs, hreached, htakes, hb, horder, hgiven, rerouted, hr, hchecked, Option.some.inj hrerouted⟩

end ClusterState

end ClusterControl
