import ClusterControl.Proofs.Allocation.Reach
import ClusterControl.Proofs.Routing.Construction

/-!
What a reroute leaves alone. A copy that has a node of the directory stays there if it is active, with its role and
its move, and stays as it is if it recovers there. Copies are replaced while those on nodes that left are settled,
and while the allocator places and moves others, but no turn takes from such a copy what it has.
-/

namespace ClusterControl

namespace ShardCopy

variable {c d e : ShardCopy} {directory : Directory}

theorem isUnassigned_eq_false_iff : c.isUnassigned = false ↔ c.isInitializing = true ∨ c.isActive = true := by
  cases hs : c.stage <;> simp [isUnassigned, isInitializing, isActive, isStarted, isRelocating, hs]

theorem isActive_of_isInitializing (h : c.isInitializing = true) : c.isActive = false := by
  have hs : c.stage = .initializing := by simpa [isInitializing] using h
  simp [isActive, isStarted, isRelocating, hs]

/-- The copy is on a node of the directory. -/
def isHoused (directory : Directory) (c : ShardCopy) : Bool :=
  c.node.any directory.contains

/-- What a copy with a node keeps. It may give up a move to a node that left, begin one if it has none, and take
the lead. -/
structure Stays (directory : Directory) (c d : ShardCopy) : Prop where
  same : c.sameCopy d = true
  node : d.node = c.node
  primary : c.primary = true → d.primary = true
  active : c.isActive = true → d.isActive = true
  recovering : c.isInitializing = true → d = c
  moving : c.isRelocating = true → c.target.any directory.contains = true → d.isRelocating = true ∧ d.target = c.target

theorem Stays.refl (directory : Directory) (c : ShardCopy) : c.Stays directory c :=
  ⟨sameCopy_self c, rfl, id, id, fun _ => rfl, fun hr _ => ⟨hr, rfl⟩⟩

theorem Stays.trans (h : c.Stays directory d) (h' : d.Stays directory e) : c.Stays directory e := by
  refine ⟨sameCopy_congr h.same ▸ h'.same, h'.node.trans h.node, h'.primary ∘ h.primary, h'.active ∘ h.active, ?_, ?_⟩
  · intro hi
    obtain rfl := h.recovering hi
    exact h'.recovering hi
  · intro hr ht
    obtain ⟨hd, htarget⟩ := h.moving hr ht
    obtain ⟨he, htarget'⟩ := h'.moving hd (htarget ▸ ht)
    exact ⟨he, htarget'.trans htarget⟩

theorem Stays.isHoused (h : c.Stays directory d) (hc : c.isHoused directory = true) : d.isHoused directory = true := by
  rw [ShardCopy.isHoused, h.node]
  exact hc

theorem Stays.isUnassigned (h : c.Stays directory d) (hc : c.isUnassigned = false) : d.isUnassigned = false := by
  rcases isUnassigned_eq_false_iff.1 hc with hi | ha
  · rwa [h.recovering hi]
  · exact isUnassigned_eq_false_iff.2 (.inr (h.active ha))

theorem Keeps.stays (h : c.Keeps directory d) : c.Stays directory d := by
  rcases h with rfl | ⟨hi, rfl⟩
  · exact .refl directory d
  · have ha : c.isActive = true := by
      simp only [isHeir, Bool.and_eq_true] at hi
      exact hi.1.2
    refine ⟨sameCopy_self c, rfl, fun _ => rfl, id, fun hr => ?_, fun hr _ => ⟨hr, rfl⟩⟩
    rw [isActive_of_isInitializing hr] at ha
    cases ha

theorem stays_cancelRelocation (hr : c.isRelocating = true) (hl : RoutingTable.losesTarget directory c = true) :
    c.Stays directory c.cancelRelocation := by
  refine ⟨sameCopy_self c, rfl, id, fun _ => rfl, fun hi => ?_, fun _ ht => ?_⟩
  · simp_all [isInitializing, isRelocating]
  · cases h : c.target <;> simp_all [RoutingTable.losesTarget]

theorem stays_relocate (hs : c.isStarted = true) (id : NodeId) : c.Stays directory (c.relocate id) := by
  refine ⟨sameCopy_self c, rfl, fun hp => hp, fun _ => rfl, fun hi => ?_, fun hr _ => ?_⟩
  · simp_all [isInitializing, isStarted]
  · simp_all [isRelocating, isStarted]

end ShardCopy

namespace RoutingTable

variable {t u v : RoutingTable} {c : ShardCopy} {directory : Directory}

/-- Every copy that has a node of the directory is still there. -/
def Spares (directory : Directory) (t u : RoutingTable) : Prop :=
  ∀ c, t.Has c → c.isUnassigned = false → c.isHoused directory = true → ∃ d, u.Has d ∧ c.Stays directory d

theorem Spares.refl (directory : Directory) (t : RoutingTable) : t.Spares directory t :=
  fun c hc _ _ => ⟨c, hc, .refl directory c⟩

theorem Spares.trans (h : t.Spares directory u) (h' : u.Spares directory v) : t.Spares directory v := by
  intro c hc hu hh
  obtain ⟨d, hd, hcd⟩ := h c hc hu hh
  obtain ⟨e, he, hde⟩ := h' d hd (hcd.isUnassigned hu) (hcd.isHoused hh)
  exact ⟨e, he, hcd.trans hde⟩

theorem Settling.spares (h : Settling directory t c u) (hw : t.WellFormed) (ha : isAway directory c = true) :
    t.Spares directory u := by
  intro e he _ hh
  have hnode : isStranded directory e = false := by
    cases hn : e.node <;> simp_all [ShardCopy.isHoused, isStranded]
  cases hs : e.sameCopy c with
  | false =>
      obtain ⟨d, hd, hk⟩ := h.others hw he hs
      exact ⟨d, hd, hk.stays⟩
  | true =>
      cases h with
      | cancel hc hr =>
          obtain rfl := he.eq_of_sameCopy hc hs
          have hlost : losesTarget directory e = true := by rwa [isAway, hnode, Bool.false_or] at ha
          have hself : e.sameCopy e.cancelRelocation = true := e.sameCopy_self
          exact ⟨_, he.update_self hw hself, ShardCopy.stays_cancelRelocation hr hlost⟩
      | loss hstranded h =>
          obtain rfl := he.eq_of_sameCopy h.has hs
          rw [hnode] at hstranded
          cases hstranded

theorem spares_foldl_settleCopy {l : List ShardCopy} (hw : t.WellFormed) (hf : t.Fits)
    (hl : l.Pairwise fun x y => x.sameCopy y = false)
    (haway : ∀ x ∈ l, ∃ c, t.Has c ∧ c.sameCopy x = true ∧ isAway directory c = true) :
    t.Spares directory (l.foldl (settleCopy directory) t) := by
  -- The copies still to come are away when their turn comes, also where one took the lead in between.
  induction l generalizing t with
  | nil => exact .refl directory t
  | cons x l ih =>
      obtain ⟨hne, hl⟩ := List.pairwise_cons.1 hl
      obtain ⟨c, hc, hx, ha⟩ := haway x List.mem_cons_self
      have hs := settleCopy_settling hw hc (hf c hc) hx ha
      have hrest := ih (hs.wellFormed hw) ((hs.yields hw).fits hf) hl
        fun y hy => hs.still_away hw hx (hne y hy) (haway y (List.mem_cons_of_mem x hy))
      exact (hs.spares hw ha).trans hrest

theorem spares_settled (directory : Directory) (hw : t.WellFormed) (hf : t.Fits) :
    t.Spares directory (t.settled directory) := by
  refine spares_foldl_settleCopy hw hf (hw.pairwise_toList.filter _) fun c hc => ?_
  obtain ⟨hm, ha⟩ := List.mem_filter.1 hc
  exact ⟨c, hw.has_of_mem_toList hm, c.sameCopy_self, ha⟩

end RoutingTable

namespace Balance

variable {chain : Chain} {r next : Round} {directory : Directory}

theorem Step.spares (h : Step chain r next) (hw : r.routing.WellFormed) :
    r.routing.Spares directory next.routing := by
  obtain ⟨c, advanced, hc, ha, rfl⟩ := h.advances
  rw [Round.update_routing]
  intro e he hu _
  cases hs : e.sameCopy c with
  | false =>
      refine ⟨e, he.update_of_ne hw ?_, .refl directory e⟩
      rw [ShardCopy.sameCopy_comm, ← ShardCopy.sameCopy_congr ha.sameCopy, ShardCopy.sameCopy_comm, hs]
  | true =>
      obtain rfl := he.eq_of_sameCopy hc hs
      refine ⟨advanced, he.update_self hw ha.sameCopy, ?_⟩
      cases ha with
      | assign id hidle =>
          rw [hidle] at hu
          cases hu
      | relocate id hstarted => exact ShardCopy.stays_relocate hstarted id

theorem spares_of_steps (h : Relation.ReflTransGen (Step chain) r next) (hw : r.routing.WellFormed) :
    r.routing.Spares directory next.routing :=
  (keeps_of_steps (P := fun next => next.routing.WellFormed ∧ r.routing.Spares directory next.routing)
    (fun _ _ hs ih => ⟨hs.wellFormed ih.1, ih.2.trans (hs.spares ih.1)⟩) h ⟨hw, .refl directory _⟩).2

end Balance

/-- A reroute leaves no copy on a node that is not in the directory, and puts none there. It takes nothing from a copy
of an index that is there, where the copy recovers or is active on a node of the directory. The rest of the state is
the same. -/
theorem AllocationService.reroute_spares {service : AllocationService} {chain : Chain} {settings : Settings}
    {s : ClusterState} (hb : service.Balances chain settings) (ht : s.routing.Built) (hf : s.routing.Fits) :
    ∃ rerouted next, service.reroute settings s = .ok rerouted ∧ rerouted.stateFrom s = next ∧
      next = { s with routing := next.routing } ∧ next.routing.Housed s.directory ∧
      ∀ c, s.routing.Has c → s.indices.contains c.shard.index = true → c.isHoused s.directory = true →
        (c.isInitializing = true → next.routing.Has c) ∧
        (c.isActive = true → ∃ d, next.routing.Has d ∧ c.sameCopy d = true ∧ d.isActive = true ∧ d.node = c.node ∧
          (c.primary = true → d.primary = true) ∧
          (c.isRelocating = true → c.target.any s.directory.contains = true →
            d.isRelocating = true ∧ d.target = c.target)) := by
  have hw : s.routing.WellFormed := ht.wellFormed
  have haligned : s.aligned.WellFormed := ClusterState.aligned_wellFormed hw
  have hfits : s.aligned.Fits := (ClusterState.yields_aligned hw).fits hf
  have hsettled := ClusterState.aligned_settled_wellFormed hw hf
  obtain ⟨rerouted, hrerouted, _⟩ := hb.exists_reroute s
  obtain ⟨r, hsteps, he⟩ := reroute_steps_of_wellFormed hb hsettled hrerouted
  refine ⟨rerouted, _, hrerouted, he, rfl, ?_, fun c hc hi hh => ?_⟩
  · exact Balance.housed_of_steps hsteps hsettled (RoutingTable.settled_settling _ haligned hfits).2
  · have hspared := (RoutingTable.spares_settled s.directory haligned hfits).trans
      (Balance.spares_of_steps hsteps hsettled)
    have hstays := fun h =>
      hspared c (ClusterState.has_aligned hc hi) (ShardCopy.isUnassigned_eq_false_iff.2 h) hh
    refine ⟨fun h => ?_, fun h => ?_⟩
    · obtain ⟨d, hd, hcd⟩ := hstays (.inl h)
      rwa [hcd.recovering h] at hd
    · obtain ⟨d, hd, hcd⟩ := hstays (.inr h)
      exact ⟨d, hd, hcd.same, hcd.active h, hcd.node, hcd.primary, hcd.moving⟩

namespace ClusterState

/-- A replica that recovers on a node. -/
def settlingIn : ShardCopy :=
  ⟨⟨"logs", 0⟩, 1, false, .initializing, some "d2", none, some .peer, some (.fresh .indexCreated)⟩

/-- A replica on its way from one node to another. -/
def movingOver : ShardCopy :=
  ⟨⟨"logs", 1⟩, 1, false, .relocating, some "d1", some "d2", none, none⟩

def logs : Index :=
  ⟨"logs", 2, 1, .initial⟩

/-- Beside these replicas there are two primaries: one moves to a node that left, and one was on that node. -/
def unsettled : RoutingTable :=
  [⟨⟨"logs", 0⟩, 0, true, .relocating, some "d1", some "gone", none, none⟩, settlingIn,
    ⟨⟨"logs", 1⟩, 0, true, .started, some "gone", none, none, none⟩, movingOver].foldl RoutingTable.update
    (RoutingTable.empty.addIndex logs .emptyStore)

theorem unsettled_built : unsettled.Built :=
  List.foldlRecOn (motive := RoutingTable.Built) _ _ (.addIndex .empty logs .emptyStore) fun _ ht c _ => ht.update c

def logsUnsettled : ClusterState :=
  { dataPair.putIndex logs with routing := unsettled }

theorem logsUnsettled_spared :
    logsUnsettled.routing.Built ∧ logsUnsettled.routing.Fits ∧ logsUnsettled.routing.Has settlingIn ∧
      logsUnsettled.routing.Has movingOver ∧
      ∃ rerouted next, AllocationService.builtin.reroute .initial logsUnsettled = .ok rerouted ∧
        rerouted.stateFrom logsUnsettled = next ∧ next.routing.Housed logsUnsettled.directory ∧
        next.routing.Has settlingIn ∧
        ∃ d, next.routing.Has d ∧ movingOver.sameCopy d = true ∧ d.isRelocating = true ∧ d.node = some "d1" ∧
          d.target = some "d2" := by
  have ht : logsUnsettled.routing.Built := unsettled_built
  have hf : logsUnsettled.routing.Fits := by
    have hall : ∀ c ∈ logsUnsettled.routing.toList, c.Fits := by decide
    exact fun c hc => hall c hc.mem_toList
  have hc : logsUnsettled.routing.Has settlingIn := by decide
  have hd : logsUnsettled.routing.Has movingOver := by decide
  obtain ⟨rerouted, next, hr, hnext, _, hhoused, hspared⟩ :=
    AllocationService.reroute_spares AllocationService.builtin_balances ht hf
  obtain ⟨d, hm, hs, _, hnode, _, hmoving⟩ := (hspared movingOver hd (by decide) (by decide)).2 (by decide)
  obtain ⟨hrelocating, htarget⟩ := hmoving (by decide) (by decide)
  exact ⟨ht, hf, hc, hd, rerouted, next, hr, hnext, hhoused,
    (hspared settlingIn hc (by decide) (by decide)).1 (by decide), d, hm, hs, hrelocating, hnode, htarget⟩

end ClusterState

end ClusterControl
