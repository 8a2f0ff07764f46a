import ClusterControl.Proofs.Allocation.Reach
import ClusterControl.Proofs.Routing.Leadership

/-!
Shards that are led. In a run a shard with an active copy has an active primary as long as the reports of starts
are attended: a copy that is reported as started has an active primary, or its primary starts with it. Nothing
but such a report can break this, and each report that is not attended does: a replica that began to recover
goes on when its primary fails or leaves, and serves alone once it is reported.
-/

namespace ClusterControl

theorem ShardCopy.isActive_afterStarts {started : List ShardCopy} {c : ShardCopy} :
    (c.afterStarts started).isActive = true ↔
      c.isActive = true ∨ c.isInitializing = true ∧ started.any (·.sameCopy c) = true := by
  unfold afterStarts
  cases hn : started.any (·.sameCopy c) <;> cases hs : c.stage <;>
    simp [isRecovering, isActive, isInitializing, isStarted, isRelocating, start, hs]

theorem ShardCopy.shard_afterStarts {started : List ShardCopy} {c : ShardCopy} :
    (c.afterStarts started).shard = c.shard := by
  unfold afterStarts
  split <;> rfl

theorem ShardCopy.primary_afterStarts {started : List ShardCopy} {c : ShardCopy} :
    (c.afterStarts started).primary = c.primary := by
  unfold afterStarts
  split <;> rfl

namespace RoutingTable

variable {t u : RoutingTable} {started : List ShardCopy}

/-- Every initializing copy that is reported as started has a primary that is active, or that is reported too. -/
def Attends (t : RoutingTable) (started : List ShardCopy) : Prop :=
  ∀ c, t.Has c → c.isInitializing = true → started.any (·.sameCopy c) = true →
    ∃ p, t.Has p ∧ p.shard = c.shard ∧ p.primary = true ∧
      (p.isActive = true ∨ p.isInitializing = true ∧ started.any (·.sameCopy p) = true)

theorem Led.afterStarts_iff (hl : t.Led) (hu : ∀ d, u.Has d ↔ ∃ c, t.Has c ∧ d = c.afterStarts started) :
    u.Led ↔ t.Attends started := by
  constructor
  · intro h c hc hi hn
    have hactive : (c.afterStarts started).isActive = true := ShardCopy.isActive_afterStarts.2 (.inr ⟨hi, hn⟩)
    obtain ⟨q, hq, hs, hprimary, hqa⟩ := h _ ((hu _).2 ⟨c, hc, rfl⟩) hactive
    obtain ⟨p, hp, rfl⟩ := (hu q).1 hq
    rw [ShardCopy.shard_afterStarts, ShardCopy.shard_afterStarts] at hs
    rw [ShardCopy.primary_afterStarts] at hprimary
    exact ⟨p, hp, hs, hprimary, ShardCopy.isActive_afterStarts.1 hqa⟩
  · -- A copy that was active has a primary that was; one that starts has a primary that is attended.
    intro h d hd ha
    obtain ⟨c, hc, rfl⟩ := (hu d).1 hd
    have hled : ∃ p, t.Has p ∧ p.shard = c.shard ∧ p.primary = true ∧
        (p.isActive = true ∨ p.isInitializing = true ∧ started.any (·.sameCopy p) = true) := by
      rcases ShardCopy.isActive_afterStarts.1 ha with hactive | ⟨hi, hn⟩
      · obtain ⟨p, hp, hs, hprimary, hpa⟩ := hl c hc hactive
        exact ⟨p, hp, hs, hprimary, .inl hpa⟩
      · exact h c hc hi hn
    obtain ⟨p, hp, hs, hprimary, hpa⟩ := hled
    refine ⟨p.afterStarts started, (hu _).2 ⟨p, hp, rfl⟩, ?_, ?_, ShardCopy.isActive_afterStarts.2 hpa⟩
    · rw [ShardCopy.shard_afterStarts, ShardCopy.shard_afterStarts, hs]
    · rw [ShardCopy.primary_afterStarts, hprimary]

end RoutingTable

namespace AllocationService

variable {service : AllocationService} {chain : Chain} {settings : Settings} {s mid next : ClusterState}

/-- A step of the service in which reports of starts are attended. -/
inductive AttendedStep (service : AllocationService) (settings : Settings) : ClusterState → ClusterState → Prop
  | reroute {s altered : ClusterState} {rerouted : Rerouted} (ha : s.Alters altered)
      (h : service.reroute settings altered = .ok rerouted) :
      AttendedStep service settings s (rerouted.stateFrom altered)
  | started {s next : ClusterState} (started : List ShardCopy) (ha : s.routing.Attends started)
      (h : service.applyStarted settings s started = .ok next) : AttendedStep service settings s next
  | failed {s next : ClusterState} (failed : List Failure)
      (h : service.applyFailed settings s failed = .ok next) : AttendedStep service settings s next

theorem AttendedStep.step (h : service.AttendedStep settings s next) : service.Step settings s next := by
  cases h with
  | reroute ha h => exact .reroute ha h
  | started started _ h => exact .started started h
  | failed failed h => exact .failed failed h

theorem AttendedStep.of_reconcile {altered : ClusterState} (hb : service.Balances chain settings)
    (ha : s.Alters altered) : service.AttendedStep settings s (service.reconcile settings altered) := by
  obtain ⟨rerouted, h, he⟩ := hb.exists_reroute altered
  rw [he]
  exact .reroute ha h

theorem Fails.ledOn {t u : RoutingTable} {c : ShardCopy} {directory : Directory} {message : String}
    (h : Fails directory t c message u) (hc : t.Has c) (hw : t.WellFormed) (hf : t.Fits)
    (hl : t.LedOn directory) : u.LedOn directory := by
  cases h with
  | ignored => exact hl
  | stays hr => exact hl.cancelRelocation hw hc hr
  | lost _ h => exact h.ledOn hw hf hl

theorem applyFailures_led {t u : RoutingTable} {failed : List Failure} {directory : Directory}
    (h : failed.foldlM (applyFailure directory) t = .ok u) (hw : t.WellFormed) (hf : t.Fits)
    (hh : t.Housed directory) (hl : t.Led) : u.Led := by
  have hkeeps : (u.WellFormed ∧ u.Fits ∧ u.LedOn directory) := by
    refine foldlM_keeps (P := fun t => t.WellFormed ∧ t.Fits ∧ t.LedOn directory) ?_ ⟨hw, hf, hl.on directory⟩ h
    rintro t u x ⟨hw, hf, hl⟩ hx
    obtain ⟨c, hc, _, hfails⟩ := applyFailure_ok hw hx
    exact ⟨hfails.wellFormed hw, (hfails.yields hw hc).fits hf, hfails.ledOn hc hw hf hl⟩
  exact hkeeps.2.2.led ((applyFailures_age hw h).2.yields.housed hh)

theorem Course.led (hc : Course chain mid next) (ha : mid.routing.Alignable mid.indices)
    (hw : mid.routing.WellFormed) (hf : mid.routing.Fits) (hl : mid.routing.Led) : next.routing.Led := by
  have haligned : mid.aligned.WellFormed := (ClusterState.aligned_follows ha).wellFormed
  have hfits : mid.aligned.Fits := (ClusterState.yields_aligned hw).fits hf
  have hled : mid.aligned.LedOn mid.directory := (ClusterState.led_aligned hw hl).on mid.directory
  exact (hc.lasting ha hw hf).led_iff.2 (RoutingTable.led_settled haligned hfits hled)

/-- Reports of starts that are attended leave every shard led, and others do not. -/
theorem applyStarted_led_iff {started : List ShardCopy} (h : service.applyStarted settings s started = .ok next)
    (hb : service.Balances chain settings) (hs : s.Sound) (hl : s.routing.Led) :
    next.routing.Led ↔ s.routing.Attends started := by
  obtain ⟨plan, hrouted⟩ := hs.routed
  obtain ⟨routing, hreports, hf, hi, hc⟩ := applyStarted_course h hb hrouted
  rw [← hl.afterStarts_iff fun d => applyStarts_has_iff hs.wellFormed hreports]
  rcases hrouted.2 with rfl | rfl
  · -- Nothing is routed yet, so there is no copy that could be active.
    have hnone : routing.Led := fun c hc => absurd hc hf.not_has_of_none
    exact iff_of_true (hc.led hi.alignable hi.wellFormed (hi.yields.fits hs.fits) hnone) hnone
  · -- There is nothing to bring in line, so only the allocator has changed something.
    have hsettled : (ClusterState.aligned { s with routing }).settled s.directory = routing := by
      rw [ClusterState.aligned_eq hf]
      exact RoutingTable.settled_eq hi.wellFormed (hi.yields.housed hs.housed)
    have hlasting := hc.lasting hi.alignable hi.wellFormed (hi.yields.fits hs.fits)
    rw [hsettled] at hlasting
    exact hlasting.led_iff

theorem AttendedStep.led (h : service.AttendedStep settings s next) (hb : service.Balances chain settings)
    (hs : s.Sound) (hl : s.routing.Led) : next.routing.Led := by
  obtain ⟨plan, hrouted⟩ := hs.routed
  cases h with
  | reroute ha h =>
      have hi : Intake s _ := .of_alters ha hrouted
      have hr := ha.routing_eq
      exact (reroute_course hb hi.alignable h).led hi.alignable hi.wellFormed (hr ▸ hs.fits) (hr ▸ hl)
  | started started ha h => exact (applyStarted_led_iff h hb hs hl).2 ha
  | failed failed h =>
      obtain ⟨routing, hreports, _, hi, hc⟩ := applyFailed_course h hb hrouted
      exact hc.led hi.alignable hi.wellFormed (hi.yields.fits hs.fits)
        (applyFailures_led hreports hs.wellFormed hs.fits hs.housed hl)

end AllocationService

namespace Chain

variable {chain : Chain} {s : ClusterState}

/-- States that the service reaches with these rules, from one with nothing routed, by attended reports. -/
inductive ReachesAttended (chain : Chain) : ClusterState → Prop
  | start {s : ClusterState} (he : s.routing = .empty) : ReachesAttended chain s
  | step {service : AllocationService} {settings : Settings} {s next : ClusterState}
      (h : ReachesAttended chain s) (hb : service.Balances chain settings)
      (hs : service.AttendedStep settings s next) : ReachesAttended chain next

theorem ReachesAttended.reaches (h : chain.ReachesAttended s) : chain.Reaches s := by
  induction h with
  | start he => exact .start he
  | step _ hb hs ih => exact .step ih hb hs.step

theorem ReachesAttended.led (h : chain.ReachesAttended s) : s.routing.Led := by
  induction h with
  | start he => exact fun c hc => absurd (he ▸ hc) RoutingTable.not_has_empty
  | step h hb hs ih => exact hs.led hb h.reaches.sound ih

/-- While reports of starts are attended, a shard with an active copy has an active primary; and the first
reports that are not end that. -/
theorem ReachesAttended.active_copies_led (h : chain.ReachesAttended s) :
    s.routing.Led ∧
      ∀ (service : AllocationService) (settings : Settings) (started : List ShardCopy) (next : ClusterState),
        service.Balances chain settings → service.applyStarted settings s started = .ok next →
          (next.routing.Led ↔ s.routing.Attends started) :=
  ⟨h.led, fun _ _ _ _ hb hn => AllocationService.applyStarted_led_iff hn hb h.reaches.sound h.led⟩

end Chain

namespace ClusterState

open AllocationService

/-- The only node of a cluster. -/
def alone : ClusterState :=
  { initial with directory := Directory.empty.insert (dataNode "a") }

/-- An index of one shard is created there. -/
def logsAlone (replicas : Nat) : ClusterState :=
  builtin.reconcile .initial (alone.putIndex ⟨"logs", 1, replicas, .initial⟩)

theorem logsAlone_reached (replicas : Nat) : Rules.builtin.ReachesAttended (logsAlone replicas) :=
  .step (.start (s := alone) rfl) builtin_balances (.of_reconcile builtin_balances (.create _ rfl rfl rfl))

/-- The primary of the new index is reported as started, and its shard is led. -/
theorem logs_led_once_started :
    Rules.builtin.ReachesAttended (logsAlone 1) ∧ (logsAlone 1).routing.Led ∧
      (logsAlone 1).routing.Attends [.placeholder ⟨"logs", 0⟩ 0] ∧
      ∀ next, builtin.applyStarted .initial (logsAlone 1) [.placeholder ⟨"logs", 0⟩ 0] = .ok next →
        next.routing.Led := by
  obtain ⟨hled, hiff⟩ := (logsAlone_reached 1).active_copies_led
  have hprimary : ∀ c ∈ (logsAlone 1).routing.copies ⟨"logs", 0⟩, c.number = 0 → c.primary = true := by
    decide +kernel
  have hattends : (logsAlone 1).routing.Attends [.placeholder ⟨"logs", 0⟩ 0] := by
    intro c hc hi hn
    have hsame : (ShardCopy.placeholder ⟨"logs", 0⟩ 0).sameCopy c = true := by simpa using hn
    obtain ⟨hshard, hnumber⟩ := ShardCopy.sameCopy_iff.1 hsame
    have hm : c ∈ (logsAlone 1).routing.copies ⟨"logs", 0⟩ := by
      rw [show (⟨"logs", 0⟩ : ShardId) = c.shard from hshard]
      exact hc.mem
    exact ⟨c, hc, rfl, hprimary c hm hnumber.symm, .inr ⟨hi, hn⟩⟩
  exact ⟨logsAlone_reached 1, hled, hattends, fun next h => (hiff _ _ _ next builtin_balances h).2 hattends⟩

/-- Its primary starts. Then its node takes no more shards, and another one joins that does. -/
def logsJoined (replicas : Nat) : Except AllocationError ClusterState := do
  let served ← builtin.applyStarted .initial (logsAlone replicas) [.placeholder ⟨"logs", 0⟩ 0]
  return builtin.reconcile .initial
    { served with directory := (Directory.empty.insert (Node.bare "a" "a")).insert (dataNode "b") }

theorem logsJoined_reached {replicas : Nat} {s : ClusterState} (h : logsJoined replicas = .ok s) :
    Rules.builtin.Reaches s := by
  obtain ⟨served, hserved, h⟩ := bind_ok h
  cases h
  have hs := (logsAlone_reached replicas).reaches.step builtin_balances (.started _ hserved)
  exact hs.step builtin_balances (builtin_balances.step_reconcile (.other rfl rfl))

/-- A replica begins to recover on that node, the primary fails, and after that the replica is reported as
started. -/
def orphaned : Except AllocationError ClusterState := do
  let joined ← logsJoined 1
  let failed ← builtin.applyFailed .initial joined [⟨.placeholder ⟨"logs", 0⟩ 0, "disk"⟩]
  builtin.applyStarted .initial failed [.placeholder ⟨"logs", 0⟩ 1]

theorem orphaned_reached {s : ClusterState} (h : orphaned = .ok s) : Rules.builtin.Reaches s := by
  obtain ⟨joined, hjoined, h⟩ := bind_ok h
  obtain ⟨failed, hfailed, h⟩ := bind_ok h
  exact ((logsJoined_reached hjoined).step builtin_balances (.failed _ hfailed)).step builtin_balances (.started _ h)

/-- The replica is active then, and its primary is not. -/
theorem orphan_not_led : ∃ s, orphaned = .ok s ∧ Rules.builtin.Reaches s ∧ ¬ s.routing.Led := by
  have horphaned : orphaned.toOption.map (fun s => (s.routing.copies ⟨"logs", 0⟩).map fun c =>
      (c.primary, c.isActive)) = some [(true, false), (false, true)] := by decide +kernel
  obtain ⟨s, hs, hcopies⟩ := ok_of_map horphaned
  have hr := orphaned_reached hs
  have hw : s.routing.WellFormed := hr.sound.wellFormed
  refine ⟨s, hs, hr, fun hled => ?_⟩
  obtain ⟨c, hc, hca⟩ : ∃ c ∈ s.routing.copies ⟨"logs", 0⟩, (c.primary, c.isActive) = (false, true) := by
    rw [← List.mem_map, hcopies]
    decide
  obtain ⟨p, hp, hshard, hprimary, hactive⟩ := hled c (hw.has_of_mem hc) (congrArg Prod.snd hca)
  have hm : p ∈ s.routing.copies ⟨"logs", 0⟩ := hw.mem_copies_iff.2 ⟨hp, hshard.trans (hw.own _ c hc)⟩
  have hpm := List.mem_map_of_mem (f := fun c => (c.primary, c.isActive)) hm
  rw [hcopies, hprimary, hactive] at hpm
  exact absurd hpm (by decide)

end ClusterState

end ClusterControl
