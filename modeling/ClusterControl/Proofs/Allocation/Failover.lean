import ClusterControl.Proofs.Allocation.Attendance

/-!
Failover. Nodes leave and copies are reported as failed, in any order and any number of times. A shard that was
led is led afterwards by one active primary on a node that is there, as long as one of its active copies is on
such a node and is not reported; and a primary gives up the lead only if it failed or its node left. Both are
followed through the reports and then through the copies that are taken off the nodes that left: a copy that
survives, and a copy that had the lead.
-/

namespace ClusterControl

namespace ShardCopy

variable {c v w : ShardCopy} {Q Q' : Prop} {n m : Nat}

/-- How many reports make an active copy fail: a relocating one gives up its move first. -/
def reportsToFail (c : ShardCopy) : Nat :=
  if c.isRelocating then 2 else 1

/-- A copy `c` as it is later on, as `v`: where it is active it is on the node that it was on, and it has given
up the lead only if `Q`. -/
structure Traces (c : ShardCopy) (Q : Prop) (v : ShardCopy) : Prop where
  same : c.sameCopy v = true
  lead : v.primary = false → Q
  place : v.isActive = true → c.isActive = true ∧ v.node = c.node

theorem Traces.refl (hp : c.primary = true) : c.Traces Q c :=
  ⟨c.sameCopy_self, fun h => absurd (hp.symm.trans h) (by decide), fun h => ⟨h, rfl⟩⟩

theorem Traces.mono (h : c.Traces Q v) (hq : Q → Q') : c.Traces Q' v :=
  ⟨h.same, hq ∘ h.lead, h.place⟩

theorem Traces.cancelRelocation (h : c.Traces Q v) (hr : v.isRelocating = true) : c.Traces Q v.cancelRelocation :=
  ⟨h.same, h.lead, fun _ => h.place (by simp [isActive, hr])⟩

end ShardCopy

namespace RoutingTable

variable {t u : RoutingTable} {c v x : ShardCopy} {Q : Prop} {info : UnassignedInfo} {directory : Directory}

theorem Loss.traces (h : Loss directory t x info u) (hw : t.WellFormed) (hv : t.Has v) (ht : c.Traces Q v)
    (hq : v.sameCopy x = true → v.isActive = true → Q) :
    ∃ w, u.Has w ∧ c.Traces Q w ∧ (w.isStarted = true → v.isStarted = true) := by
  cases hvx : v.sameCopy x with
  | true =>
      obtain rfl := hv.eq_of_sameCopy h.has hvx
      obtain ⟨w, hu, rfl | ⟨rfl, _, ha⟩⟩ := h.self hw
      · exact ⟨_, hu, ⟨ht.same, ht.lead, nofun⟩, nofun⟩
      · exact ⟨_, hu, ⟨ht.same, fun _ => hq hvx ha, nofun⟩, nofun⟩
  | false =>
      obtain ⟨w, hu, rfl | ⟨_, rfl⟩⟩ := h.others hw hv hvx
      · exact ⟨w, hu, ht, id⟩
      · exact ⟨_, hu, ⟨ht.same, nofun, ht.place⟩, id⟩

theorem Settling.traces (h : Settling directory t x u) (hw : t.WellFormed) (hv : t.Has v) (ht : c.Traces Q v)
    (hq : c.isActive = true → isStranded directory c = true → Q) : ∃ w, u.Has w ∧ c.Traces Q w := by
  cases h with
  | cancel hx hr =>
      cases hvx : v.sameCopy x with
      | true =>
          obtain rfl := hv.eq_of_sameCopy hx hvx
          exact ⟨_, hv.update_self hw (ShardCopy.lasts_cancelRelocation hr).same, ht.cancelRelocation hr⟩
      | false => exact ⟨v, hv.update_of_ne hw hvx, ht⟩
  | loss hs h =>
      obtain ⟨w, hu, hw', _⟩ := h.traces hw hv ht fun hvx ha => by
        obtain rfl := hv.eq_of_sameCopy h.has hvx
        obtain ⟨hactive, hnode⟩ := ht.place ha
        exact hq hactive (by rwa [isStranded, ← hnode])
      exact ⟨w, hu, hw'⟩

/-- The shard is led, and the copy is active on the node that it was on. -/
def Serves (t : RoutingTable) (c : ShardCopy) : Prop :=
  t.LedAt c.shard ∧ ∃ v, t.Has v ∧ c.sameCopy v = true ∧ v.isActive = true ∧ v.node = c.node

theorem Serves.cancelRelocation (h : t.Serves c) (hw : t.WellFormed) (hx : t.Has x) (hr : x.isRelocating = true) :
    (t.update x.cancelRelocation).Serves c := by
  obtain ⟨hled, v, hv, hs, ha, hn⟩ := h
  refine ⟨hled.lasting (lasting_update hw hx (ShardCopy.lasts_cancelRelocation hr)), ?_⟩
  cases hvx : v.sameCopy x with
  | true =>
      obtain rfl := hv.eq_of_sameCopy hx hvx
      exact ⟨_, hv.update_self hw (ShardCopy.lasts_cancelRelocation hr).same, hs, rfl, hn⟩
  | false => exact ⟨v, hv.update_of_ne hw hvx, hs, ha, hn⟩

theorem Loss.serves (h : Loss directory t x info u) (hw : t.WellFormed) (hn : c.node.any directory.contains = true)
    (hx : x.sameCopy c = false) (hs : t.Serves c) : u.Serves c := by
  obtain ⟨hled, v, hv, hs, ha, hvn⟩ := hs
  have hvx : v.sameCopy x = false := by rwa [← ShardCopy.sameCopy_congr hs, ShardCopy.sameCopy_comm]
  have hshard : c.shard = v.shard := (ShardCopy.sameCopy_iff.1 hs).1
  refine ⟨hshard ▸ h.ledAt hw hv hvx ha (hvn ▸ hn) (hshard ▸ hled), ?_⟩
  obtain ⟨w, hu, hk⟩ := h.others hw hv hvx
  exact ⟨w, hu, by rw [ShardCopy.sameCopy_congr hs, hk.sameCopy], hk.isActive.trans ha, hk.node.trans hvn⟩

theorem Settling.serves (h : Settling directory t x u) (hw : t.WellFormed)
    (hn : c.node.any directory.contains = true) (hs : t.Serves c) : u.Serves c := by
  cases h with
  | cancel hx hr => exact hs.cancelRelocation hw hx hr
  | loss hstranded h =>
      refine h.serves hw hn ?_ hs
      obtain ⟨_, v, hv, hsame, _, hvn⟩ := hs
      by_contra hx
      rw [Bool.not_eq_false, ShardCopy.sameCopy_comm, ShardCopy.sameCopy_congr hsame] at hx
      obtain rfl := hv.eq_of_sameCopy h.has hx
      -- Its node would be there and not be there.
      rw [isStranded, hvn] at hstranded
      cases hc : c.node <;> simp_all

end RoutingTable

namespace AllocationService

open RoutingTable

variable {t u : RoutingTable} {c v x : ShardCopy} {n : Nat} {directory : Directory} {message : String}
  {failed : List Failure}

/-- A copy `c` as it is after `n` reports on it, as `v`. -/
structure Endures (c : ShardCopy) (n : Nat) (v : ShardCopy) : Prop where
  traces : c.Traces (c.isActive = true ∧ c.reportsToFail ≤ n) v
  started : v.isStarted = true → c.reportsToFail ≤ n + 1

theorem Endures.mono {m : Nat} (h : Endures c n v) (hm : n ≤ m) : Endures c m v :=
  ⟨h.traces.mono fun hq => ⟨hq.1, Nat.le_trans hq.2 hm⟩, fun hv => Nat.le_trans (h.started hv) (by omega)⟩

theorem Endures.refl (hp : c.primary = true) : Endures c 0 c := by
  refine ⟨.refl hp, fun hs => ?_⟩
  have hr : c.isRelocating = false := by
    cases hstage : c.stage <;> simp_all [ShardCopy.isStarted, ShardCopy.isRelocating]
  simp [ShardCopy.reportsToFail, hr]

theorem Fails.endures (h : Fails directory t x message u) (hw : t.WellFormed) (hx : t.Has x) (hv : t.Has v)
    (he : Endures c n v) : ∃ w, u.Has w ∧ Endures c (n + if x.sameCopy c then 1 else 0) w := by
  have hxc : x.sameCopy c = v.sameCopy x := by
    rw [ShardCopy.sameCopy_comm, ShardCopy.sameCopy_congr he.traces.same]
  cases h with
  | ignored => exact ⟨v, hv, he.mono (by omega)⟩
  | stays hr =>
      cases hvx : v.sameCopy x with
      | false => exact ⟨v, hv.update_of_ne hw hvx, he.mono (by omega)⟩
      | true =>
          obtain rfl := hv.eq_of_sameCopy hx hvx
          rw [hxc, hvx, if_pos rfl]
          refine ⟨_, hv.update_self hw (ShardCopy.lasts_cancelRelocation hr).same, ?_, fun _ => ?_⟩
          · exact (he.mono (Nat.le_succ n)).traces.cancelRelocation hr
          · -- A move was given up, and that is all that a second report would have had to wait for.
            unfold ShardCopy.reportsToFail
            split <;> omega
  | lost hs h =>
      have hle : n ≤ n + if x.sameCopy c then 1 else 0 := Nat.le_add_right _ _
      obtain ⟨w, hu, ht, hstarted⟩ := h.traces hw hv (he.mono hle).traces fun hvx ha => by
        obtain rfl := hv.eq_of_sameCopy hx hvx
        rw [hxc, hvx, if_pos rfl]
        refine ⟨(he.traces.place ha).1, he.started ?_⟩
        refine hs.resolve_left fun hi => ?_
        cases hstage : v.stage <;>
          simp_all [ShardCopy.isActive, ShardCopy.isStarted, ShardCopy.isRelocating, ShardCopy.isInitializing]
      exact ⟨w, hu, ht, fun hws => (he.mono hle).started (hstarted hws)⟩

theorem applyFailures_endure (h : failed.foldlM (applyFailure directory) t = .ok u) (hw : t.WellFormed)
    (hv : t.Has v) (he : Endures c n v) :
    ∃ w, u.Has w ∧ Endures c (n + failed.countP fun f => f.copy.sameCopy c) w := by
  induction failed generalizing t v n with
  | nil =>
      cases h
      exact ⟨v, hv, he⟩
  | cons f failed ih =>
      rw [List.foldlM_cons] at h
      obtain ⟨mid, hm, h⟩ := bind_ok h
      obtain ⟨x, hx, hxf, hfails⟩ := applyFailure_ok hw hm
      obtain ⟨w, hmid, he'⟩ := hfails.endures hw hx hv he
      obtain ⟨w', hu, he''⟩ := ih h (hfails.wellFormed hw) hmid he'
      refine ⟨w', hu, ?_⟩
      rw [List.countP_cons, ← ShardCopy.sameCopy_congr hxf]
      exact he''.mono (by omega)

theorem applyFailures_serve (h : failed.foldlM (applyFailure directory) t = .ok u) (hw : t.WellFormed)
    (hn : c.node.any directory.contains = true) (hc : ∀ f ∈ failed, f.copy.sameCopy c = false) (hs : t.Serves c) :
    u.Serves c := by
  induction failed generalizing t with
  | nil =>
      cases h
      exact hs
  | cons f failed ih =>
      rw [List.foldlM_cons] at h
      obtain ⟨mid, hm, h⟩ := bind_ok h
      obtain ⟨x, hx, hxf, hfails⟩ := applyFailure_ok hw hm
      obtain ⟨hfc, hc⟩ := List.forall_mem_cons.1 hc
      refine ih h (hfails.wellFormed hw) hc ?_
      cases hfails with
      | ignored => exact hs
      | stays hr => exact hs.cancelRelocation hw hx hr
      | lost _ hl => exact hl.serves hw hn (ShardCopy.sameCopy_congr hxf ▸ hfc) hs

variable {service : AllocationService} {chain : Chain} {settings : Settings} {s next : ClusterState} {plan : StaffPlan}

theorem applyFailed_nil (service : AllocationService) (settings : Settings) (s : ClusterState) :
    service.applyFailed settings s [] = (service.reroute settings s).map fun rerouted => rerouted.stateFrom s := by
  simp only [applyFailed, List.foldlM_nil, bind, Except.bind, pure, Except.pure]
  cases service.reroute settings s <;> rfl

theorem Balances.applyFailed_total (hb : service.Balances chain settings) (hr : s.routing.Follows plan)
    (hn : ∀ f ∈ failed, ∃ c, s.routing.Has c ∧ c.sameCopy f.copy = true) :
    ∃ next, service.applyFailed settings s failed = .ok next := by
  obtain ⟨routing, hrouting⟩ := applyFailures_total (d := s.directory) hr hn
  obtain ⟨rerouted, hrerouted, _⟩ := hb.exists_reroute { s with routing }
  simp only [applyFailed, hrouting, bind, Except.bind, pure, Except.pure, hrerouted]
  exact ⟨_, rfl⟩

/-- What comes of reports, once there is a copy to report: the reports are taken in, copies are taken off the
nodes that left, and the allocator keeps every copy in its role. -/
theorem applyFailed_lasting (hs : s.Sound) (hb : service.Balances chain settings) (hc : s.routing.Has c)
    (h : service.applyFailed settings { s with directory } failed = .ok next) :
    ∃ routing, failed.foldlM (applyFailure directory) s.routing = .ok routing ∧ routing.WellFormed ∧
      routing.Fits ∧ (routing.settled directory).Lasting next.routing ∧ next.directory = directory ∧ next.Sound := by
  obtain ⟨plan, hrouted⟩ := hs.routed
  have hrouted' : ClusterState.Routed { s with directory } plan := hrouted
  obtain ⟨routing, hreports, hf, hi, hcourse⟩ := applyFailed_course h hb hrouted'
  have hfits : routing.Fits := hi.yields.fits hs.fits
  have hplan : plan = s.indices.plan := by
    refine hrouted.2.resolve_left ?_
    rintro rfl
    exact hrouted.1.not_has_of_none hc
  have haligned : (ClusterState.aligned { s with directory, routing }) = routing := ClusterState.aligned_eq (hplan ▸ hf)
  have hlasting := hcourse.lasting hi.alignable hi.wellFormed hfits
  rw [haligned] at hlasting
  refine ⟨routing, hreports, hi.wellFormed, hfits, hlasting, hcourse.directory_eq, ?_⟩
  exact ⟨⟨_, (Step.failed failed h).follows hb hrouted'⟩,
    hcourse.preserves hi.alignable hi.wellFormed hfits chain.preserves_fits hfits,
    hcourse.housed hi.alignable hi.wellFormed hfits⟩

theorem applyFailed_ledAt (hs : s.Sound) (hb : service.Balances chain settings) (hc : s.routing.Has c)
    (h : service.applyFailed settings { s with directory } failed = .ok next)
    (hn : c.node.any directory.contains = true) (hfailed : ∀ f ∈ failed, f.copy.sameCopy c = false)
    (hserves : s.routing.Serves c) : next.routing.LedAt c.shard := by
  obtain ⟨routing, hreports, hw, hf, hlasting, _, _⟩ := applyFailed_lasting hs hb hc h
  have hserves' : routing.Serves c := applyFailures_serve hreports hs.wellFormed hn hfailed hserves
  have hsettled : (routing.settled directory).Serves c :=
    settling_keeps (P := fun t => t.Serves c) (fun _ _ _ hw _ hs => hs.serves hw hn) (settled_settling _ hw hf).1 hw hf
      hserves'
  exact hsettled.1.lasting hlasting

theorem applyFailed_traces (hs : s.Sound) (hb : service.Balances chain settings) (hc : s.routing.Has c)
    (hp : c.primary = true) (h : service.applyFailed settings { s with directory } failed = .ok next) :
    ∃ d, next.routing.Has d ∧ c.sameCopy d = true ∧
      (d.primary = false → c.isActive = true ∧
        (c.reportsToFail ≤ (failed.countP fun f => f.copy.sameCopy c) ∨ isStranded directory c = true)) := by
  obtain ⟨routing, hreports, hw, hf, hlasting, _, _⟩ := applyFailed_lasting hs hb hc h
  obtain ⟨v, hv, he⟩ := applyFailures_endure hreports hs.wellFormed hc (.refl hp)
  rw [Nat.zero_add] at he
  have htraces := he.traces.mono fun hq => And.imp_right (Or.inl (b := isStranded directory c = true)) hq
  obtain ⟨w, hw', ht⟩ := settling_keeps (P := fun t => ∃ v, t.Has v ∧ c.Traces _ v)
    (fun _ _ _ hw _ hs ⟨_, hv, ht⟩ => hs.traces hw hv ht fun ha hstranded => ⟨ha, .inr hstranded⟩)
    (settled_settling _ hw hf).1 hw hf ⟨v, hv, htraces⟩
  obtain ⟨d, hd, hwd⟩ := hlasting.kept w hw'
  exact ⟨d, hd, ShardCopy.sameCopy_congr ht.same ▸ hwd.same, fun hprimary => ht.lead (hwd.primary.symm.trans hprimary)⟩

end AllocationService

theorem ClusterState.Sound.sole_primary {s : ClusterState} {shard : ShardId} (h : s.Sound)
    (hl : s.routing.LedAt shard) :
    ∃ p, (s.routing.copies shard).filter ShardCopy.primary = [p] ∧ p.isActive = true ∧
      p.node.any s.directory.contains = true := by
  obtain ⟨p, hp, rfl, hprimary, hactive⟩ := hl
  obtain ⟨plan, hf, _⟩ := h.routed
  obtain ⟨id, hid⟩ := (h.fits p hp).node_of_active hactive
  refine ⟨p, ?_, hactive, ?_⟩
  · have hm := hp.mem
    cases hg : s.routing.shards.get? p.shard with
    | none => simp [RoutingTable.copies, hg] at hm
    | some l =>
        rw [RoutingTable.copies, hg, Option.getD_some] at hm ⊢
        obtain ⟨_, _, hstaff⟩ := hf.staffed hg
        exact hstaff.filter_primary hm hprimary
  · rw [hid, Option.any_some]
    exact h.housed p hp id (ShardCopy.mem_places.2 (.inl hid))

/-- Whatever nodes are left and whatever copies of the table are reported, a shard that was led and has an active
copy that survives is led by one active primary on a node of the directory; and a primary gives up the lead only
if it was active and then failed or lost its node. -/
theorem Chain.Reaches.failover {chain : Chain} {service : AllocationService} {settings : Settings} {s : ClusterState}
    (h : chain.Reaches s) (hb : service.Balances chain settings) (directory : Directory) (failed : List Failure)
    (hn : ∀ f ∈ failed, ∃ c, s.routing.Has c ∧ c.sameCopy f.copy = true) :
    ∃ next, service.applyFailed settings { s with directory } failed = .ok next ∧
      (failed = [] → (service.reroute settings { s with directory }).map
        (fun rerouted => rerouted.stateFrom { s with directory }) = .ok next) ∧
      (∀ c, s.routing.Has c → s.routing.LedAt c.shard → c.isActive = true →
        c.node.any directory.contains = true → (∀ f ∈ failed, f.copy.sameCopy c = false) →
          ∃ p, (next.routing.copies c.shard).filter ShardCopy.primary = [p] ∧ p.isActive = true ∧
            p.node.any directory.contains = true) ∧
      ∀ c, s.routing.Has c → c.primary = true →
        ∃ d, next.routing.Has d ∧ c.sameCopy d = true ∧
          (d.primary = false → c.isActive = true ∧
            (c.reportsToFail ≤ (failed.countP fun f => f.copy.sameCopy c) ∨
              RoutingTable.isStranded directory c = true)) := by
  obtain ⟨plan, hrouted⟩ := h.sound.routed
  obtain ⟨next, hnext⟩ := hb.applyFailed_total (s := { s with directory }) hrouted.1 hn
  refine ⟨next, hnext, ?_, ?_, ?_⟩
  · rintro rfl
    rw [← AllocationService.applyFailed_nil, hnext]
  · intro c hc hled ha hnode hsurvives
    obtain ⟨_, _, _, _, _, hdirectory, hsound⟩ := AllocationService.applyFailed_lasting h.sound hb hc hnext
    have hserves : s.routing.Serves c := ⟨hled, c, hc, c.sameCopy_self, ha, rfl⟩
    have hled' := AllocationService.applyFailed_ledAt h.sound hb hc hnext hnode hsurvives hserves
    exact hdirectory ▸ hsound.sole_primary hled'
  · intro c hc hp
    exact AllocationService.applyFailed_traces h.sound hb hc hp hnext

namespace ClusterState

open AllocationService

/-- Of a shard with two replicas, the primary serves on one node, and a replica on another one. -/
def paired : Except AllocationError ClusterState := do
  let joined ← logsJoined 2
  builtin.applyStarted .initial joined [.placeholder ⟨"logs", 0⟩ 1]

/-- The copies that serve: the primary has number 0. -/
def serving (number : Nat) (id : NodeId) : ShardCopy :=
  ⟨⟨"logs", 0⟩, number, number = 0, .started, some id, none, none, none⟩

theorem paired_reached {s : ClusterState} (h : paired = .ok s) : Rules.builtin.Reaches s := by
  obtain ⟨joined, hjoined, h⟩ := bind_ok h
  exact (logsJoined_reached hjoined).step builtin_balances (.started _ h)

/-- The first node leaves and the primary is reported twice: the shard has one primary, active on the other node. -/
theorem replica_takes_over :
    ∃ s, paired = .ok s ∧ Rules.builtin.Reaches s ∧
      ∃ next, builtin.applyFailed .initial { s with directory := Directory.empty.insert (dataNode "b") }
          [⟨.placeholder ⟨"logs", 0⟩ 0, "disk"⟩, ⟨.placeholder ⟨"logs", 0⟩ 0, "disk"⟩] = .ok next ∧
        ∃ p, (next.routing.copies ⟨"logs", 0⟩).filter ShardCopy.primary = [p] ∧ p.isActive = true ∧
          p.node.any (Directory.empty.insert (dataNode "b")).contains = true := by
  have hpaired : paired.toOption.map (fun s => decide (s.routing.Has (serving 0 "a") ∧ s.routing.Has (serving 1 "b"))) =
      some true := by decide +kernel
  obtain ⟨s, hs, hhas⟩ := ok_of_map hpaired
  obtain ⟨hprimary, hreplica⟩ : s.routing.Has (serving 0 "a") ∧ s.routing.Has (serving 1 "b") := by simpa using hhas
  have hr : Rules.builtin.Reaches s := paired_reached hs
  have hnamed : ∀ f ∈ [Failure.mk (.placeholder ⟨"logs", 0⟩ 0) "disk", ⟨.placeholder ⟨"logs", 0⟩ 0, "disk"⟩],
      ∃ c, s.routing.Has c ∧ c.sameCopy f.copy = true := by
    intro f hf
    refine ⟨serving 0 "a", hprimary, ?_⟩
    simp only [List.mem_cons, List.not_mem_nil, or_false, or_self] at hf
    rw [hf]
    decide
  obtain ⟨next, hnext, _, hled, _⟩ :=
    hr.failover builtin_balances (Directory.empty.insert (dataNode "b")) _ hnamed
  refine ⟨s, hs, hr, next, hnext, ?_⟩
  exact hled _ hreplica ⟨_, hprimary, rfl, rfl, rfl⟩ rfl (by decide) (by decide)

end ClusterState

end ClusterControl
