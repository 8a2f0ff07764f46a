import ClusterControl.Proofs.Allocation.Passes
import ClusterControl.Proofs.Allocation.Reports
import ClusterControl.Proofs.Routing.Construction

/-!
Runs of the allocation service. Between two reroutes nodes come and go, indices are created and deleted and
settings change; copies are reported as started and as failed. After every step of a run that begins with
nothing routed, the table has the shards of the indices, and each shard has its copies with one primary.
-/

namespace ClusterControl

/-- What a reroute may find: another state with the same routing, and with one index more or less at most. -/
inductive ClusterState.Alters (s altered : ClusterState) : Prop
  | other (hr : altered.routing = s.routing) (hi : altered.indices = s.indices)
  | create (index : Index) (hn : s.index? index.name = none) (hr : altered.routing = s.routing)
      (hi : altered.indices = s.indices.insert index)
  | delete (name : String) (hr : altered.routing = s.routing) (hi : altered.indices = s.indices.erase name)

namespace AllocationService

/-- The service reroutes an altered state, or takes in reports of any copies. -/
inductive Step (service : AllocationService) (settings : Settings) : ClusterState → ClusterState → Prop
  | reroute {s altered : ClusterState} {rerouted : Rerouted} (ha : s.Alters altered)
      (h : service.reroute settings altered = .ok rerouted) : Step service settings s (rerouted.stateFrom altered)
  | started {s next : ClusterState} (started : List ShardCopy)
      (h : service.applyStarted settings s started = .ok next) : Step service settings s next
  | failed {s next : ClusterState} (failed : List Failure)
      (h : service.applyFailed settings s failed = .ok next) : Step service settings s next

/-- The service asks these rules, and the settings name the balanced allocator. -/
structure Balances (service : AllocationService) (chain : Chain) (settings : Settings) : Prop where
  chain : service.chain = chain
  allocator : service.allocators.get settings.allocation.allocator = .ok Balance.allocate

end AllocationService

/-- One step or more leads from the first state to the second; settings and cluster info may differ from step
to step. -/
def Chain.Leads (chain : Chain) : ClusterState → ClusterState → Prop :=
  Relation.TransGen fun s next =>
    ∃ (service : AllocationService) (settings : Settings), service.Balances chain settings ∧ service.Step settings s next

namespace Balance

variable {chain : Chain} {r next : Round} {plan : StaffPlan}

theorem Step.follows (h : Step chain r next) (hr : r.routing.Follows plan) : next.routing.Follows plan := by
  obtain ⟨c, advanced, hc, ha, rfl⟩ := h.advances
  rw [Round.update_routing]
  exact hr.update hc ha.sameCopy ha.lasts.primary

theorem allocate_follows (chain : Chain) (hr : r.routing.Follows plan) : (allocate chain r).routing.Follows plan :=
  keeps_of_steps (P := fun r => r.routing.Follows plan) (fun _ _ hs hr => hs.follows hr)
    (allocate_steps chain hr.wellFormed) hr

end Balance

namespace AllocationService

variable {service : AllocationService} {chain : Chain} {settings : Settings} {s altered next : ClusterState}
  {t u : RoutingTable} {plan : StaffPlan}

/-- A reroute gives a new state if the table was brought in line or the allocator changed it. -/
theorem reroute_eq {allocator : Allocator} (ha : service.allocators.get settings.allocation.allocator = .ok allocator) :
    let round := allocator service.chain (.start { s with routing := s.syncRouting.1 } settings.allocation service.info)
    service.reroute settings s =
      .ok (if s.syncRouting.2 || round.changed then .replaced { s with routing := round.routing } else .unchanged) := by
  have hline : (if s.syncRouting.2 then { s with routing := s.syncRouting.1 } else s) =
      { s with routing := s.syncRouting.1 } := by
    split
    case isTrue => rfl
    case isFalse hs => rw [ClusterState.syncRouting_eq (by simpa using hs)]
  rw [reroute, ha]
  simp only [bind, Except.bind, hline]
  rfl

/-- A reroute leaves all as it is, where nothing is to be done, or replaces the routing by what the allocator
makes of it. -/
theorem reroute_ok {rerouted : Rerouted} (h : service.reroute settings s = .ok rerouted) :
    ∃ allocator, service.allocators.get settings.allocation.allocator = .ok allocator ∧
      (rerouted = .unchanged ∧ s.syncRouting.1 = s.routing ∨
        rerouted = .replaced { s with
          routing := (allocator service.chain
            (.start { s with routing := s.syncRouting.1 } settings.allocation service.info)).routing }) := by
  obtain ⟨allocator, ha, _⟩ := bind_ok h
  refine ⟨allocator, ha, ?_⟩
  rw [reroute_eq ha] at h
  cases h
  split
  case isTrue => exact .inr rfl
  case isFalse hs =>
    rw [Bool.or_eq_true, not_or, Bool.not_eq_true] at hs
    exact .inl ⟨rfl, ClusterState.syncRouting_eq hs.1⟩

theorem reroute_follows {rerouted : Rerouted} (hb : service.Balances chain settings)
    (ha : s.routing.Alignable s.indices) (h : service.reroute settings s = .ok rerouted) :
    (rerouted.stateFrom s).routing.Follows (rerouted.stateFrom s).indices.plan := by
  have hsynced := ClusterState.syncRouting_follows ha
  obtain ⟨allocator, hallocator, hr⟩ := reroute_ok h
  cases hb.allocator.symm.trans hallocator
  rcases hr with ⟨rfl, he⟩ | rfl
  · rwa [he] at hsynced
  · exact Balance.allocate_follows service.chain hsynced

theorem reroute_indices {rerouted : Rerouted} (h : service.reroute settings s = .ok rerouted) :
    (rerouted.stateFrom s).indices = s.indices := by
  obtain ⟨_, _, ⟨rfl, _⟩ | rfl⟩ := reroute_ok h <;> rfl

theorem reconcile_indices (service : AllocationService) (settings : Settings) (s : ClusterState) :
    (service.reconcile settings s).indices = s.indices := by
  simp only [reconcile, rerouteOrKeep]
  cases h : service.reroute settings s with
  | error => rfl
  | ok rerouted => exact reroute_indices h

theorem Balances.exists_reroute (hb : service.Balances chain settings) (s : ClusterState) :
    ∃ rerouted, service.reroute settings s = .ok rerouted ∧ service.reconcile settings s = rerouted.stateFrom s := by
  obtain ⟨rerouted, h⟩ : ∃ rerouted, service.reroute settings s = .ok rerouted := ⟨_, reroute_eq hb.allocator⟩
  refine ⟨rerouted, h, ?_⟩
  rw [reconcile, rerouteOrKeep, h]
  rfl

theorem builtin_balances : builtin.Balances Rules.builtin .initial :=
  ⟨rfl, rfl⟩

theorem Balances.step_reconcile (hb : service.Balances chain settings) (ha : s.Alters altered) :
    service.Step settings s (service.reconcile settings altered) := by
  obtain ⟨rerouted, h, he⟩ := hb.exists_reroute altered
  rw [he]
  exact .reroute ha h

theorem Starts.follows {c : ShardCopy} (h : Starts t c u) (hc : t.Has c) (ht : t.Follows plan) : u.Follows plan := by
  cases h with
  | ignored => exact ht
  | started => exact ht.update hc (ShardCopy.sameCopy_self _) rfl

theorem Fails.follows {d : Directory} {c : ShardCopy} {message : String} (h : Fails d t c message u) (hc : t.Has c)
    (ht : t.Follows plan) : u.Follows plan := by
  cases h with
  | ignored => exact ht
  | stays => exact ht.update hc (ShardCopy.sameCopy_self _) rfl
  | lost _ h => exact ht.loss h

theorem applyStarts_follow {started : List ShardCopy} (ht : t.Follows plan)
    (h : started.foldlM applyStart t = .ok u) : u.Follows plan := by
  refine foldlM_keeps (P := fun t => t.Follows plan) ?_ ht h
  intro t u x ht hx
  obtain ⟨c, hc, _, hs⟩ := applyStart_ok ht.wellFormed hx
  exact hs.follows hc ht

theorem applyFailures_follow {d : Directory} {failed : List Failure} (ht : t.Follows plan)
    (h : failed.foldlM (applyFailure d) t = .ok u) : u.Follows plan := by
  refine foldlM_keeps (P := fun t => t.Follows plan) ?_ ht h
  intro t u x ht hx
  obtain ⟨c, hc, _, hf⟩ := applyFailure_ok ht.wellFormed hx
  exact hf.follows hc ht

theorem applyFailures_total {d : Directory} {failed : List Failure} (ht : t.Follows plan)
    (hn : ∀ f ∈ failed, ∃ c, t.Has c ∧ c.sameCopy f.copy = true) : ∃ u, failed.foldlM (applyFailure d) t = .ok u := by
  induction failed generalizing t with
  | nil => exact ⟨t, rfl⟩
  | cons f failed ih =>
      obtain ⟨⟨c, hc, hs⟩, hn⟩ := List.forall_mem_cons.1 hn
      obtain ⟨mid, hmid⟩ : ∃ mid, applyFailure d t f = .ok mid := by
        rw [applyFailure, lookup_of_has hc hs]
        exact ⟨_, rfl⟩
      obtain ⟨x, hx, _, hfails⟩ := applyFailure_ok ht.wellFormed hmid
      have hf : mid.Follows plan := hfails.follows hx ht
      -- The same copies are there, by shard and number, so the other reports name copies as well.
      have hn' : ∀ g ∈ failed, ∃ c, mid.Has c ∧ c.sameCopy g.copy = true := by
        intro g hg
        obtain ⟨c, hc, hs⟩ := hn g hg
        obtain ⟨hshard, hnumber⟩ := ShardCopy.sameCopy_iff.1 hs
        obtain ⟨c', hc', hshard', hnumber'⟩ := hf.exists_has_iff.2 (ht.exists_has_iff.1 ⟨c, hc, hshard, hnumber⟩)
        exact ⟨c', hc', ShardCopy.sameCopy_iff.2 ⟨hshard', hnumber'⟩⟩
      obtain ⟨u, hu⟩ := ih hf hn'
      refine ⟨u, ?_⟩
      rw [List.foldlM_cons, hmid]
      exact hu

theorem rerouted_ok {reported : Except AllocationError RoutingTable}
    (h : (do
      let routing ← reported
      return (← service.reroute settings { s with routing }).stateFrom { s with routing }) = .ok next) :
    ∃ routing rerouted, reported = .ok routing ∧
      service.reroute settings { s with routing := routing } = .ok rerouted ∧
      next = rerouted.stateFrom { s with routing := routing } := by
  obtain ⟨routing, hreported, h⟩ := bind_ok h
  obtain ⟨rerouted, hrerouted, h⟩ := bind_ok h
  cases h
  exact ⟨routing, rerouted, hreported, hrerouted, rfl⟩

theorem applyStarted_ok {started : List ShardCopy} (h : service.applyStarted settings s started = .ok next) :
    ∃ routing rerouted, started.foldlM applyStart s.routing = .ok routing ∧
      service.reroute settings { s with routing := routing } = .ok rerouted ∧
      next = rerouted.stateFrom { s with routing := routing } :=
  rerouted_ok h

theorem applyFailed_ok {failed : List Failure} (h : service.applyFailed settings s failed = .ok next) :
    ∃ routing rerouted, failed.foldlM (applyFailure s.directory) s.routing = .ok routing ∧
      service.reroute settings { s with routing := routing } = .ok rerouted ∧
      next = rerouted.stateFrom { s with routing := routing } :=
  rerouted_ok h

end AllocationService

namespace ClusterState

variable {s altered next : ClusterState} {plan : StaffPlan}

/-- Nothing is routed yet, or the shards of the indices are. -/
def Routed (s : ClusterState) (plan : StaffPlan) : Prop :=
  s.routing.Follows plan ∧ (plan = (fun _ => none) ∨ plan = s.indices.plan)

theorem Routed.alignable (h : s.Routed plan) : s.routing.Alignable s.indices := by
  obtain ⟨hf, rfl | rfl⟩ := h
  · exact hf.alignable_of_none
  · exact hf.alignable

theorem Alters.routing_eq (ha : s.Alters altered) : altered.routing = s.routing := by
  cases ha <;> assumption

/-- An index that is there after the change was there before, or it is new. -/
theorem Alters.index_cases {index : Index} (ha : s.Alters altered) (hi : index ∈ altered.indices) :
    index ∈ s.indices ∨ s.index? index.name = none := by
  cases ha with
  | other _ he => exact .inl (he ▸ hi)
  | create new hn _ he =>
      rw [he] at hi
      rcases SortedBy.mem_insert.1 hi with rfl | ⟨hold, _⟩
      · exact .inr hn
      · exact .inl hold
  | delete name _ he =>
      rw [he] at hi
      exact .inl (SortedBy.mem_erase.1 hi).1

theorem Alters.find?_eq {index : Index} {name : String} (ha : s.Alters altered)
    (hs : s.indices.find? name = some index) (hi : altered.indices.contains name = true) :
    altered.indices.find? name = some index := by
  obtain ⟨other, ho, rfl⟩ := SortedBy.contains_iff.1 hi
  rcases ha.index_cases ho with hold | hnew
  · cases hs.symm.trans (SortedBy.find?_eq_some_iff.2 ⟨hold, rfl⟩)
    exact SortedBy.find?_eq_some_iff.2 ⟨ho, rfl⟩
  · cases hs.symm.trans hnew

theorem Alters.alignable (ha : s.Alters altered) (h : s.Routed plan) : altered.routing.Alignable altered.indices := by
  rw [ha.routing_eq]
  obtain ⟨hf, rfl | rfl⟩ := h
  · exact hf.alignable_of_none
  · intro index hi hrouted n
    rcases ha.index_cases hi with hold | hnew
    · -- An index that is there before and after the change is planned alike.
      refine (hf ⟨index.name, n⟩).congr ?_ rfl
      rw [IndexTable.plan_of_mem hold rfl, IndexTable.plan_of_mem hi rfl]
    · obtain ⟨known, hk, he⟩ := hf.known hrouted
      cases hnew.symm.trans (SortedBy.find?_eq_some_iff.2 ⟨hk, he⟩)

end ClusterState

/-- After a step the table follows the indices, whether or not anything was routed before. -/
theorem AllocationService.Step.follows {service : AllocationService} {chain : Chain} {settings : Settings}
    {s next : ClusterState} {plan : StaffPlan} (h : service.Step settings s next)
    (hb : service.Balances chain settings) (hs : s.Routed plan) : next.Routed next.indices.plan := by
  refine ⟨?_, .inr rfl⟩
  cases h with
  | reroute ha h => exact reroute_follows hb (ha.alignable hs) h
  | started started h =>
      obtain ⟨routing, rerouted, hr, hrerouted, rfl⟩ := applyStarted_ok h
      have hrouted : ClusterState.Routed { s with routing := routing } plan := ⟨applyStarts_follow hs.1 hr, hs.2⟩
      exact reroute_follows hb hrouted.alignable hrerouted
  | failed failed h =>
      obtain ⟨routing, rerouted, hr, hrerouted, rfl⟩ := applyFailed_ok h
      have hrouted : ClusterState.Routed { s with routing := routing } plan := ⟨applyFailures_follow hs.1 hr, hs.2⟩
      exact reroute_follows hb hrouted.alignable hrerouted

/-- The table has the shards of these indices and no others, each with its staff. -/
structure RoutingTable.Covers (t : RoutingTable) (indices : IndexTable) : Prop where
  shards : ∀ shard, shard ∈ t.shardIds ↔
    ∃ index ∈ indices, index.name = shard.index ∧ shard.number < index.shards
  staffed : ∀ index ∈ indices, ∀ n < index.shards,
    Staffed ⟨index.name, n⟩ index.replicas (t.copies ⟨index.name, n⟩)

theorem RoutingTable.Follows.covers {t : RoutingTable} {indices : IndexTable} (h : t.Follows indices.plan) :
    t.Covers indices := by
  refine ⟨?_, ?_⟩
  · intro shard
    rw [mem_shardIds, ← (h shard).isSome]
    constructor
    · rintro ⟨replicas, hp⟩
      obtain ⟨index, hf, hp⟩ := Option.bind_eq_some_iff.1 hp
      obtain ⟨hi, hn⟩ := SortedBy.find?_eq_some_iff.1 hf
      split at hp
      case isTrue hs => exact ⟨index, hi, hn, hs⟩
      case isFalse => cases hp
    · rintro ⟨index, hi, hn, hs⟩
      exact ⟨index.replicas, by rw [IndexTable.plan_of_mem hi hn.symm, if_pos hs]⟩
  · intro index hi n hn
    have hp : indices.plan ⟨index.name, n⟩ = some index.replicas := by
      rw [IndexTable.plan_of_mem hi rfl, if_pos hn]
    obtain ⟨l, hg⟩ := (h ⟨index.name, n⟩).isSome.1 ⟨_, hp⟩
    obtain ⟨replicas, hp', hs⟩ := h.staffed hg
    cases hp.symm.trans hp'
    rwa [copies, hg]

/-- After every step of a run that begins with nothing routed, the table has the shards of the indices, and
each shard has its copies by number, one of them the primary. -/
theorem Chain.routing_covers_indices {chain : Chain} {s next : ClusterState} (he : s.routing = .empty)
    (h : chain.Leads s next) : next.routing.Covers next.indices := by
  have hstart : s.Routed fun _ => none := ⟨he ▸ RoutingTable.empty_follows, .inl rfl⟩
  have hrouted : next.Routed next.indices.plan := by
    induction h with
    | single hs =>
        obtain ⟨service, settings, hb, hs⟩ := hs
        exact hs.follows hb hstart
    | tail _ hs ih =>
        obtain ⟨service, settings, hb, hs⟩ := hs
        exact hs.follows hb ih
  exact hrouted.1.covers

namespace ClusterState

def dataNode (id : NodeId) : Node :=
  { Node.bare id id with roles := .ofList [.data] }

/-- A new cluster of two nodes that hold shards. -/
def dataPair : ClusterState :=
  { initial with directory := (Directory.empty.insert (dataNode "d1")).insert (dataNode "d2") }

/-- A new index in a cluster of these nodes. -/
def withIndex (d : Directory) (index : Index) : ClusterState :=
  { initial with directory := d }.putIndex index

/-- Each copy of the index has started on this node. -/
def servedBy (id : NodeId) (d : Directory) (index : Index) : ClusterState :=
  { withIndex d index with routing := (withIndex d index).aligned.mapCopies fun c => (c.assign id).start }

section ServedBy

variable (id : NodeId) (d : Directory) (index : Index)

theorem withIndex_wellFormed : (withIndex d index).aligned.WellFormed :=
  aligned_wellFormed RoutingTable.wellFormed_empty

theorem sameCopy_start_assign (c : ShardCopy) : c.sameCopy (c.assign id).start = true :=
  ShardCopy.sameCopy_self c

theorem servedBy_wellFormed : (servedBy id d index).routing.WellFormed :=
  (withIndex_wellFormed d index).mapCopies (sameCopy_start_assign id)

theorem servedBy_fits : (servedBy id d index).routing.Fits := by
  intro c hc
  obtain ⟨_, _, rfl⟩ := ((withIndex_wellFormed d index).has_mapCopies (sameCopy_start_assign id)).1 hc
  exact ⟨rfl, rfl⟩

end ServedBy

/-- An index of one shard with a replica is created, and then one of the nodes leaves. -/
def logsAfterDeparture : ClusterState :=
  let created := AllocationService.builtin.reconcile .initial (dataPair.putIndex ⟨"logs", 1, 1, .initial⟩)
  AllocationService.builtin.reconcile .initial { created with directory := created.directory.erase "d1" }

theorem dataPair_leads : Rules.builtin.Leads dataPair logsAfterDeparture := by
  have hb := AllocationService.builtin_balances
  have hcreated : Rules.builtin.Leads dataPair
      (AllocationService.builtin.reconcile .initial (dataPair.putIndex ⟨"logs", 1, 1, .initial⟩)) :=
    .single ⟨_, _, hb, hb.step_reconcile (.create ⟨"logs", 1, 1, .initial⟩ rfl rfl rfl)⟩
  exact .tail hcreated ⟨_, _, hb, hb.step_reconcile (.other rfl rfl)⟩

/-- Wherever the copies are then, both are there under their numbers, and one is the primary. -/
theorem one_primary_after_departure :
    dataPair.routing = .empty ∧ Rules.builtin.Leads dataPair logsAfterDeparture ∧
      (∀ shard, shard ∈ logsAfterDeparture.routing.shardIds ↔ shard = ⟨"logs", 0⟩) ∧
      (logsAfterDeparture.routing.copies ⟨"logs", 0⟩).map ShardCopy.number = [0, 1] ∧
      (logsAfterDeparture.routing.copies ⟨"logs", 0⟩).countP ShardCopy.primary = 1 := by
  have hc : logsAfterDeparture.routing.Covers logsAfterDeparture.indices :=
    Chain.routing_covers_indices rfl dataPair_leads
  have hi : logsAfterDeparture.indices = .ofList [⟨"logs", 1, 1, .initial⟩] := by
    rw [logsAfterDeparture, AllocationService.reconcile_indices]
    exact AllocationService.reconcile_indices _ _ _
  rw [hi] at hc
  have hstaff := hc.staffed ⟨"logs", 1, 1, .initial⟩ (by decide) 0 (by decide)
  refine ⟨rfl, dataPair_leads, ?_, hstaff.numbers, hstaff.primary⟩
  intro shard
  rw [hc.shards shard]
  obtain ⟨name, number⟩ := shard
  simp [SortedBy.mem_iff, SortedBy.ofList, SortedBy.insert, SortedBy.empty, SortedBy.place, eq_comm]

end ClusterState

end ClusterControl
