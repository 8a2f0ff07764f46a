import ClusterControl.Proofs.Allocation.Run

/-!
The states that runs of the allocation service reach, and how to reason about them. A step of the service
reroutes a table in which no copy is on a node that is new to it; the reroute settles the copies that are on
nodes that left, and the allocator goes on from there. What copies keep when they give up nodes, and keep when
the allocator places or moves one, holds of every state that is reached.
-/

namespace ClusterControl

namespace RoutingTable

theorem not_has_empty {c : ShardCopy} : ¬ empty.Has c := by
  rintro ⟨⟩

end RoutingTable

/-- States that the service reaches with these rules from one with nothing routed; settings and cluster info
may differ from step to step. -/
inductive Chain.Reaches (chain : Chain) : ClusterState → Prop
  | start {s : ClusterState} (he : s.routing = .empty) : Chain.Reaches chain s
  | step {service : AllocationService} {settings : Settings} {s next : ClusterState} (h : Chain.Reaches chain s)
      (hb : service.Balances chain settings) (hs : service.Step settings s next) : Chain.Reaches chain next

/-- What holds of a table still holds when copies give up nodes, and when the allocator takes a step. -/
structure Chain.Preserves (chain : Chain) (P : RoutingTable → Prop) : Prop where
  yields : ∀ t u, t.Yields u → P t → P u
  step : ∀ r next, Balance.Step chain r next → r.routing.WellFormed → P r.routing → P next.routing

theorem Chain.preserves_fits (chain : Chain) : chain.Preserves RoutingTable.Fits :=
  ⟨fun _ _ h => h.fits, fun _ _ h => h.fits⟩

/-- What holds of the states of a run: the shards of the indices are routed, or nothing is yet, and every copy
has the nodes that its stage calls for, all of them in the directory. -/
structure ClusterState.Sound (s : ClusterState) : Prop where
  routed : ∃ plan, s.Routed plan
  fits : s.routing.Fits
  housed : s.routing.Housed s.directory

theorem ClusterState.Sound.wellFormed {s : ClusterState} (h : s.Sound) : s.routing.WellFormed := by
  obtain ⟨plan, hf, _⟩ := h.routed
  exact hf.wellFormed

theorem ClusterState.settled_aligned {s : ClusterState} (ha : s.routing.Alignable s.indices)
    (hw : s.routing.WellFormed) (hf : s.routing.Fits) :
    (s.aligned.settled s.directory).WellFormed ∧ s.routing.Yields (s.aligned.settled s.directory) ∧
      (s.aligned.settled s.directory).Housed s.directory := by
  have haligned : s.aligned.WellFormed := (aligned_follows ha).wellFormed
  have hy : s.routing.Yields s.aligned := yields_aligned hw
  have hf' : s.aligned.Fits := hy.fits hf
  exact ⟨RoutingTable.settled_wellFormed haligned hf', hy.trans (RoutingTable.yields_settled haligned hf'),
    (RoutingTable.settled_settling _ haligned hf').2⟩

namespace AllocationService

variable {service : AllocationService} {chain : Chain} {settings : Settings} {s mid next : ClusterState}
  {rerouted : Rerouted} {plan : StaffPlan} {P : RoutingTable → Prop}

/-- The course of a reroute: indices come and go, copies are taken off the nodes that left, and the allocator
takes its steps. -/
inductive Course (chain : Chain) (s : ClusterState) : ClusterState → Prop
  | mk (settings : AllocationSettings) (info : ClusterInfo) {r : Round}
      (h : Relation.ReflTransGen (Balance.Step chain)
        (.start { s with routing := s.aligned.settled s.directory } settings info) r) :
      Course chain s { s with routing := r.routing }

/-- The rules see the settings of the reroute in all of these steps. -/
theorem reroute_steps_of_wellFormed (hb : service.Balances chain settings)
    (hw : (s.aligned.settled s.directory).WellFormed) (h : service.reroute settings s = .ok rerouted) :
    ∃ r, Relation.ReflTransGen (Balance.Step chain)
      (.start { s with routing := s.aligned.settled s.directory } settings.allocation service.info) r ∧
      rerouted.stateFrom s = { s with routing := r.routing } := by
  obtain ⟨allocator, hallocator, hr⟩ := reroute_ok h
  cases hb.allocator.symm.trans hallocator
  rcases hr with ⟨rfl, he⟩ | rfl
  · -- The table was in line already, and the allocator changed nothing.
    refine ⟨_, .refl, ?_⟩
    rw [ClusterState.syncRouting_fst] at he
    rw [he]
    rfl
  · exact ⟨_, hb.chain ▸ Balance.allocate_steps service.chain hw, rfl⟩

theorem reroute_steps (hb : service.Balances chain settings) (ha : s.routing.Alignable s.indices)
    (h : service.reroute settings s = .ok rerouted) :
    ∃ r, Relation.ReflTransGen (Balance.Step chain)
      (.start { s with routing := s.aligned.settled s.directory } settings.allocation service.info) r ∧
      rerouted.stateFrom s = { s with routing := r.routing } :=
  reroute_steps_of_wellFormed hb (ClusterState.syncRouting_follows ha).wellFormed h

theorem reroute_course (hb : service.Balances chain settings) (ha : s.routing.Alignable s.indices)
    (h : service.reroute settings s = .ok rerouted) : Course chain s (rerouted.stateFrom s) := by
  obtain ⟨r, hsteps, he⟩ := reroute_steps hb ha h
  rw [he]
  exact .mk settings.allocation service.info hsteps

/-- What a step of the service takes in before it reroutes is in order, and no copy is on a node that is new
to it. -/
structure Intake (s mid : ClusterState) : Prop where
  wellFormed : mid.routing.WellFormed
  alignable : mid.routing.Alignable mid.indices
  yields : s.routing.Yields mid.routing

theorem Intake.of_alters {altered : ClusterState} (ha : s.Alters altered) (hr : s.Routed plan) : Intake s altered :=
  ⟨ha.routing_eq ▸ hr.1.wellFormed, ha.alignable hr, ha.routing_eq ▸ .refl _⟩

theorem applyStarted_course {started : List ShardCopy} (h : service.applyStarted settings s started = .ok next)
    (hb : service.Balances chain settings) (hr : s.Routed plan) :
    ∃ routing, started.foldlM applyStart s.routing = .ok routing ∧ routing.Follows plan ∧
      Intake s { s with routing } ∧ Course chain { s with routing } next := by
  obtain ⟨routing, rerouted, hreports, hrerouted, rfl⟩ := applyStarted_ok h
  have hf : routing.Follows plan := applyStarts_follow hr.1 hreports
  have halign := ClusterState.Routed.alignable (s := { s with routing }) ⟨hf, hr.2⟩
  obtain ⟨hw, ha⟩ := applyStarts_age hr.1.wellFormed hreports
  exact ⟨routing, hreports, hf, ⟨hw, halign, ha.yields⟩, reroute_course hb halign hrerouted⟩

theorem applyFailed_course {failed : List Failure} (h : service.applyFailed settings s failed = .ok next)
    (hb : service.Balances chain settings) (hr : s.Routed plan) :
    ∃ routing, failed.foldlM (applyFailure s.directory) s.routing = .ok routing ∧ routing.Follows plan ∧
      Intake s { s with routing } ∧ Course chain { s with routing } next := by
  obtain ⟨routing, rerouted, hreports, hrerouted, rfl⟩ := applyFailed_ok h
  have hf : routing.Follows plan := applyFailures_follow hr.1 hreports
  have halign := ClusterState.Routed.alignable (s := { s with routing }) ⟨hf, hr.2⟩
  obtain ⟨hw, ha⟩ := applyFailures_age hr.1.wellFormed hreports
  exact ⟨routing, hreports, hf, ⟨hw, halign, ha.yields⟩, reroute_course hb halign hrerouted⟩

theorem Step.intake (h : service.Step settings s next) (hb : service.Balances chain settings) (hr : s.Routed plan) :
    ∃ mid, Intake s mid ∧ Course chain mid next := by
  cases h with
  | reroute ha h =>
      have hi : Intake s _ := .of_alters ha hr
      exact ⟨_, hi, reroute_course hb hi.alignable h⟩
  | started started h =>
      obtain ⟨_, _, _, hi, hc⟩ := applyStarted_course h hb hr
      exact ⟨_, hi, hc⟩
  | failed failed h =>
      obtain ⟨_, _, _, hi, hc⟩ := applyFailed_course h hb hr
      exact ⟨_, hi, hc⟩

namespace Course

variable (hc : Course chain mid next) (ha : mid.routing.Alignable mid.indices) (hw : mid.routing.WellFormed)
  (hf : mid.routing.Fits)
include hc ha hw hf

theorem preserves (hp : chain.Preserves P) (hP : P mid.routing) : P next.routing := by
  obtain ⟨hsettled, hy, _⟩ := ClusterState.settled_aligned ha hw hf
  cases hc with
  | mk settings info h =>
      refine (Balance.keeps_of_steps (P := fun r => r.routing.WellFormed ∧ P r.routing) ?_ h
        ⟨hsettled, hp.yields _ _ hy hP⟩).2
      intro r next hs hr
      exact ⟨hs.wellFormed hr.1, hp.step r next hs hr.1 hr.2⟩

theorem housed : next.routing.Housed next.directory := by
  obtain ⟨hsettled, _, hhoused⟩ := ClusterState.settled_aligned ha hw hf
  cases hc with
  | mk settings info h => exact Balance.housed_of_steps h hsettled hhoused

theorem lasting : (mid.aligned.settled mid.directory).Lasting next.routing := by
  obtain ⟨hsettled, _, _⟩ := ClusterState.settled_aligned ha hw hf
  cases hc with
  | mk settings info h => exact Balance.lasting_of_steps h hsettled

end Course

theorem Course.directory_eq (hc : Course chain mid next) : next.directory = mid.directory := by
  cases hc
  rfl

theorem Step.sound (h : service.Step settings s next) (hb : service.Balances chain settings) (hs : s.Sound) :
    next.Sound := by
  obtain ⟨plan, hrouted⟩ := hs.routed
  obtain ⟨mid, hmid, hc⟩ := h.intake hb hrouted
  have hf : mid.routing.Fits := hmid.yields.fits hs.fits
  exact ⟨⟨_, h.follows hb hrouted⟩,
    hc.preserves hmid.alignable hmid.wellFormed hf chain.preserves_fits hf,
    hc.housed hmid.alignable hmid.wellFormed hf⟩

end AllocationService

namespace Chain.Reaches

variable {chain : Chain} {s : ClusterState} {P : RoutingTable → Prop}

theorem sound (h : chain.Reaches s) : s.Sound := by
  induction h with
  | start he =>
      refine ⟨⟨_, he ▸ RoutingTable.empty_follows, .inl rfl⟩, ?_, ?_⟩
      · exact fun c hc => absurd (he ▸ hc) RoutingTable.not_has_empty
      · exact fun c hc => absurd (he ▸ hc) RoutingTable.not_has_empty
  | step _ hb hs ih => exact hs.sound hb ih

/-- What such changes preserve, and what holds of the table with nothing in it, holds of all tables reached. -/
theorem holds (h : chain.Reaches s) (hp : chain.Preserves P) (he : P .empty) : P s.routing := by
  induction h with
  | start hr => exact hr ▸ he
  | step h hb hs ih =>
      obtain ⟨plan, hrouted⟩ := h.sound.routed
      obtain ⟨mid, hmid, hc⟩ := hs.intake hb hrouted
      exact hc.preserves hmid.alignable hmid.wellFormed (hmid.yields.fits h.sound.fits) hp
        (hp.yields _ _ hmid.yields ih)

end Chain.Reaches

end ClusterControl
