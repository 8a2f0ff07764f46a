import ClusterControl.Proofs.Allocation.Reach

/-!
What runs keep, where it is said of a table and the indices that it is for, and where the settings of the reroutes
matter. A step of the service has its stages: copies take their turns as they are reported, the state is altered,
the table is brought in line with it, copies that are on nodes that left take their turns, and the allocator goes on
from there. What each stage keeps holds of every state that is reached.
-/

namespace ClusterControl

/-- States that the service reaches from one with nothing routed, by reroutes with settings of this kind. -/
inductive Chain.ReachesUnder (chain : Chain) (admits : AllocationSettings → Prop) : ClusterState → Prop
  | start {s : ClusterState} (he : s.routing = .empty) : ReachesUnder chain admits s
  | step {service : AllocationService} {settings : Settings} {s next : ClusterState}
      (h : ReachesUnder chain admits s) (hb : service.Balances chain settings) (ha : admits settings.allocation)
      (hs : service.Step settings s next) : ReachesUnder chain admits next

/-- What holds of the indices and the table is kept by everything that happens to the table. -/
structure Chain.Upkeep (chain : Chain) (admits : AllocationSettings → Prop)
    (P : IndexTable → RoutingTable → Prop) : Prop where
  empty : ∀ indices, P indices .empty
  aligned : ∀ {s altered : ClusterState} {plan : StaffPlan}, s.Routed plan → s.Alters altered →
    P s.indices s.routing → P altered.indices altered.aligned
  ages : ∀ {indices : IndexTable} {t u : RoutingTable}, t.Ages u → u.WellFormed → P indices t → P indices u
  step : ∀ {r next : Round}, admits r.settings → Balance.Step chain r next → r.routing.WellFormed → r.routing.Fits →
    P r.state.indices r.routing → P r.state.indices next.routing

namespace AllocationService

variable {service : AllocationService} {chain : Chain} {settings : Settings} {limits : AllocationSettings}
  {s altered next : ClusterState} {reported : RoutingTable} {r : Round} {admits : AllocationSettings → Prop}
  {P : IndexTable → RoutingTable → Prop}

/-- A step of the service, stage by stage: reports are taken in, the state is altered and its table brought in line
with it, and the allocator takes its steps. -/
structure Stages (chain : Chain) (settings : AllocationSettings) (s : ClusterState) (reported : RoutingTable)
    (altered : ClusterState) (r : Round) : Prop where
  ages : s.routing.Ages reported
  waits : ∀ c, s.routing.Has c → c.isUnassigned = true → reported.Has c
  follows : ∀ plan, s.routing.Follows plan → reported.Follows plan
  alters : ClusterState.Alters { s with routing := reported } altered
  course : ∃ info, Relation.ReflTransGen (Balance.Step chain)
    (.start { altered with routing := altered.aligned.settled altered.directory } settings info) r

theorem stages_of_reports {rerouted : Rerouted} (hb : service.Balances chain settings) (hs : s.Sound)
    (hages : s.routing.Ages reported) (hwaits : ∀ c, s.routing.Has c → c.isUnassigned = true → reported.Has c)
    (hfollows : ∀ plan, s.routing.Follows plan → reported.Follows plan)
    (h : service.reroute settings { s with routing := reported } = .ok rerouted) :
    ∃ r, Stages chain settings.allocation s reported { s with routing := reported } r ∧
      rerouted.stateFrom { s with routing := reported } = { s with routing := r.routing } := by
  obtain ⟨plan, hf, hplan⟩ := hs.routed
  have hrouted : ClusterState.Routed { s with routing := reported } plan := ⟨hfollows plan hf, hplan⟩
  obtain ⟨r, hsteps, he⟩ := reroute_steps hb hrouted.alignable h
  exact ⟨r, ⟨hages, hwaits, hfollows, .other rfl rfl, _, hsteps⟩, he⟩

theorem Step.stages (h : service.Step settings s next) (hb : service.Balances chain settings) (hs : s.Sound) :
    ∃ reported altered r, Stages chain settings.allocation s reported altered r ∧
      next = { altered with routing := r.routing } := by
  have hw := hs.wellFormed
  cases h with
  | reroute ha h =>
      obtain ⟨plan, hr⟩ := hs.routed
      obtain ⟨r, hsteps, he⟩ := reroute_steps hb (ha.alignable hr) h
      exact ⟨s.routing, _, r, ⟨.refl _, fun _ hc _ => hc, fun _ hf => hf, ha, _, hsteps⟩, he⟩
  | started started h =>
      obtain ⟨routing, rerouted, hreports, hrerouted, rfl⟩ := applyStarted_ok h
      obtain ⟨r, hstages, he⟩ := stages_of_reports hb hs (applyStarts_age hw hreports).2
        (fun _ hc hu => applyStarts_has_of_unassigned hw hreports hc hu) (fun _ hf => applyStarts_follow hf hreports)
        hrerouted
      exact ⟨routing, _, r, hstages, he⟩
  | failed failed h =>
      obtain ⟨routing, rerouted, hreports, hrerouted, rfl⟩ := applyFailed_ok h
      obtain ⟨r, hstages, he⟩ := stages_of_reports hb hs (applyFailures_age hw hreports).2
        (fun _ hc hu => applyFailures_has_of_unassigned hw hreports hc hu)
        (fun _ hf => applyFailures_follow hf hreports) hrerouted
      exact ⟨routing, _, r, hstages, he⟩

namespace Stages

variable (h : Stages chain limits s reported altered r) (hs : s.Sound)
include h hs

theorem routed : ∃ plan, ClusterState.Routed { s with routing := reported } plan := by
  obtain ⟨plan, hf, hplan⟩ := hs.routed
  exact ⟨plan, h.follows plan hf, hplan⟩

theorem alignable : altered.routing.Alignable altered.indices := by
  obtain ⟨plan, hr⟩ := h.routed hs
  exact h.alters.alignable hr

theorem wellFormed : altered.routing.WellFormed := by
  obtain ⟨plan, hr⟩ := h.routed hs
  exact h.alters.routing_eq ▸ hr.1.wellFormed

theorem fits : altered.routing.Fits :=
  h.alters.routing_eq ▸ h.ages.yields.fits hs.fits

theorem aligned_wellFormed : altered.aligned.WellFormed :=
  (ClusterState.aligned_follows (h.alignable hs)).wellFormed

theorem aligned_fits : altered.aligned.Fits :=
  (ClusterState.yields_aligned (h.wellFormed hs)).fits (h.fits hs)

theorem settled_ages : altered.aligned.Ages (altered.aligned.settled altered.directory) :=
  RoutingTable.ages_settled (h.aligned_wellFormed hs) (h.aligned_fits hs)

theorem settled_wellFormed : (altered.aligned.settled altered.directory).WellFormed :=
  RoutingTable.settled_wellFormed (h.aligned_wellFormed hs) (h.aligned_fits hs)

theorem settled_fits : (altered.aligned.settled altered.directory).Fits :=
  (h.settled_ages hs).yields.fits (h.aligned_fits hs)

end Stages

theorem upkeep_of_steps {r next : Round} (hu : chain.Upkeep admits P) (ha : admits r.settings)
    (h : Relation.ReflTransGen (Balance.Step chain) r next) (hw : r.routing.WellFormed) (hf : r.routing.Fits)
    (hP : P r.state.indices r.routing) : P r.state.indices next.routing := by
  have hkept := Balance.keeps_of_steps (P := fun next => next.settings = r.settings ∧ next.state = r.state ∧
    next.routing.WellFormed ∧ next.routing.Fits ∧ P r.state.indices next.routing) ?_ h ⟨rfl, rfl, hw, hf, hP⟩
  · exact hkept.2.2.2.2
  · rintro mid next h ⟨hsettings, hstate, hw, hf, hP⟩
    have hnext : P mid.state.indices next.routing := hu.step (hsettings ▸ ha) h hw hf (hstate ▸ hP)
    exact ⟨h.settings_eq.trans hsettings, h.state_eq.trans hstate, h.wellFormed hw, h.fits hw hf, hstate ▸ hnext⟩

theorem Step.upkeep (h : service.Step settings s next) (hu : chain.Upkeep admits P)
    (hb : service.Balances chain settings) (ha : admits settings.allocation) (hs : s.Sound)
    (hP : P s.indices s.routing) : P next.indices next.routing := by
  obtain ⟨reported, altered, r, hstages, rfl⟩ := h.stages hb hs
  obtain ⟨plan, hr⟩ := hstages.routed hs
  have hreported : P s.indices reported := hu.ages hstages.ages hr.1.wellFormed hP
  have haligned : P altered.indices altered.aligned := hu.aligned hr hstages.alters hreported
  have hsettled := hu.ages (hstages.settled_ages hs) (hstages.settled_wellFormed hs) haligned
  obtain ⟨info, hsteps⟩ := hstages.course
  exact upkeep_of_steps hu ha hsteps (hstages.settled_wellFormed hs) (hstages.settled_fits hs) hsettled

end AllocationService

namespace Chain

variable {chain : Chain} {admits : AllocationSettings → Prop} {s : ClusterState} {P : IndexTable → RoutingTable → Prop}

theorem ReachesUnder.reaches (h : chain.ReachesUnder admits s) : chain.Reaches s := by
  induction h with
  | start he => exact .start he
  | step _ hb _ hs ih => exact .step ih hb hs

theorem Reaches.under (h : chain.Reaches s) : chain.ReachesUnder (fun _ => True) s := by
  induction h with
  | start he => exact .start he
  | step _ hb hs ih => exact .step ih hb trivial hs

theorem ReachesUnder.holds (h : chain.ReachesUnder admits s) (hu : chain.Upkeep admits P) : P s.indices s.routing := by
  induction h with
  | start he => exact he ▸ hu.empty _
  | step h hb ha hs ih => exact hs.upkeep hu hb ha h.reaches.sound ih

end Chain

end ClusterControl
