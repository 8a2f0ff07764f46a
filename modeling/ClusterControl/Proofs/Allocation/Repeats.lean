import ClusterControl.Proofs.Allocation.Refinement
import ClusterControl.Proofs.Routing.Construction

/-!
Late and repeated reports. A report names its copy by shard and number, and the rest of the value that it carries has
no say: what it does depends on the value that the table has by then. A start ends the recovery of the copy, so that
another start report finds nothing to do; a failure takes the copy one report closer to being unassigned, and reports
are ignored from then on. But a report that carries an old value of the copy may well be heeded.
-/

namespace ClusterControl

namespace ShardCopy

variable {c : ShardCopy} {started : List ShardCopy}

/-- How many reports of failures unassign the copy: a move is given up first. -/
def reportsLeft (c : ShardCopy) : Nat :=
  match c.stage with
  | .unassigned => 0
  | .initializing | .started => 1
  | .relocating => 2

theorem reportsLeft_eq_zero : c.reportsLeft = 0 ↔ c.isUnassigned = true := by
  cases hs : c.stage <;> simp [reportsLeft, isUnassigned, hs]

theorem isRecovering_eq_false_iff : c.isRecovering = false ↔ c.isUnassigned = true ∨ c.isStarted = true := by
  cases hs : c.stage <;> simp [isRecovering, isInitializing, isRelocating, isUnassigned, isStarted, hs]

theorem isRecovering_afterStarts (h : started.any (·.sameCopy c) = true) :
    (c.afterStarts started).isRecovering = false := by
  cases hr : c.isRecovering with
  | false => simp [afterStarts, hr]
  | true =>
      rw [afterStarts, h, hr]
      rfl

end ShardCopy

namespace AllocationService

open RoutingTable

variable {t u : RoutingTable} {c e x y : ShardCopy} {directory : Directory} {message : String}

section Carried

variable (hc : t.Has c) (hx : c.sameCopy x = true) (hy : c.sameCopy y = true)
include hc hx hy

theorem applyStart_congr : applyStart t x = applyStart t y := by
  rw [applyStart, applyStart, lookup_of_has hc hx, lookup_of_has hc hy]

theorem applyFailure_congr : applyFailure directory t ⟨x, message⟩ = applyFailure directory t ⟨y, message⟩ := by
  rw [applyFailure, applyFailure, lookup_of_has hc hx, lookup_of_has hc hy]

end Carried

theorem Starts.eq_iff (h : Starts t c u) (hw : t.WellFormed) (hc : t.Has c) : u = t ↔ c.isRecovering = false := by
  rw [ShardCopy.isRecovering_eq_false_iff]
  cases h with
  | ignored hs => exact iff_of_true rfl hs
  | started hs =>
      constructor
      · intro he
        have hself : c.sameCopy c.start = true := c.sameCopy_self
        have hstarted : t.Has c.start := he ▸ hc.update_self hw hself
        rw [hc.eq_of_sameCopy hstarted hself]
        exact .inr rfl
      · rintro (hu | hu) <;> simp_all [ShardCopy.isUnassigned, ShardCopy.isStarted, ShardCopy.isInitializing,
          ShardCopy.isRelocating]

theorem Fails.reportsLeft (h : Fails directory t c message u) (hw : t.WellFormed) (hc : t.Has c) (he : t.Has e) :
    ∃ d, u.Has d ∧ e.sameCopy d = true ∧ d.reportsLeft = e.reportsLeft - if e.sameCopy c then 1 else 0 := by
  cases hs : e.sameCopy c with
  | true =>
      obtain rfl := he.eq_of_sameCopy hc hs
      have hself := e.sameCopy_self
      cases h with
      | ignored hu => exact ⟨e, he, hself, by rw [ShardCopy.reportsLeft_eq_zero.2 hu, Nat.zero_sub]⟩
      | stays hr =>
          have hstage : e.stage = .relocating := by simpa [ShardCopy.isRelocating] using hr
          refine ⟨e.cancelRelocation, he.update_self hw hself, hself, ?_⟩
          simp [ShardCopy.reportsLeft, ShardCopy.cancelRelocation, hstage]
      | lost hstage h =>
          have hone : e.reportsLeft = 1 := by
            rcases hstage with hs | hs <;>
              simp_all [ShardCopy.reportsLeft, ShardCopy.isInitializing, ShardCopy.isStarted]
          obtain ⟨d, hd, rfl | ⟨rfl, _, _⟩⟩ := h.self hw
          · exact ⟨_, hd, hself, by rw [hone]; rfl⟩
          · exact ⟨_, hd, hself, by rw [hone]; rfl⟩
  | false =>
      cases h with
      | ignored => exact ⟨e, he, e.sameCopy_self, rfl⟩
      | stays => exact ⟨e, he.update_of_ne hw hs, e.sameCopy_self, rfl⟩
      | lost _ h =>
          obtain ⟨d, hd, hk⟩ := h.others hw he hs
          refine ⟨d, hd, hk.sameCopy, ?_⟩
          rcases hk with rfl | ⟨_, rfl⟩ <;> rfl

theorem Fails.eq_iff (h : Fails directory t c message u) (hw : t.WellFormed) (hc : t.Has c) :
    u = t ↔ c.isUnassigned = true := by
  constructor
  · rintro rfl
    obtain ⟨d, hd, hs, hleft⟩ := h.reportsLeft hw hc hc
    obtain rfl := hc.eq_of_sameCopy hd hs
    rw [c.sameCopy_self] at hleft
    exact ShardCopy.reportsLeft_eq_zero.1 (by simp only [if_true] at hleft; omega)
  · intro hu
    cases h with
    | ignored => rfl
    | stays hs => simp_all [ShardCopy.isUnassigned, ShardCopy.isRelocating]
    | lost hs => simp_all [ShardCopy.isUnassigned, ShardCopy.isInitializing, ShardCopy.isStarted]

theorem applyFailures_reportsLeft {failed : List Failure} (hw : t.WellFormed)
    (h : failed.foldlM (applyFailure directory) t = .ok u) (he : t.Has e) :
    ∃ d, u.Has d ∧ e.sameCopy d = true ∧
      d.reportsLeft = e.reportsLeft - failed.countP fun f => f.copy.sameCopy e := by
  induction failed generalizing t e with
  | nil =>
      cases h
      exact ⟨e, he, e.sameCopy_self, rfl⟩
  | cons f failed ih =>
      rw [List.foldlM_cons] at h
      obtain ⟨mid, hm, h⟩ := bind_ok h
      obtain ⟨c, hc, hf, hfails⟩ := applyFailure_ok hw hm
      obtain ⟨d, hd, hs, hleft⟩ := hfails.reportsLeft hw hc he
      obtain ⟨v, hv, hs', hleft'⟩ := ih (hfails.wellFormed hw) h hd
      refine ⟨v, hv, ShardCopy.sameCopy_congr hs ▸ hs', ?_⟩
      have hcount : (failed.countP fun g => g.copy.sameCopy d) = failed.countP fun g => g.copy.sameCopy e := by
        simp only [ShardCopy.sameCopy_congr_right hs]
      have hnamed : f.copy.sameCopy e = e.sameCopy c := by
        rw [← ShardCopy.sameCopy_congr hf, ShardCopy.sameCopy_comm]
      rw [hleft', hleft, hcount, List.countP_cons, hnamed]
      omega

/-- The table has another value of a copy than a report carries. -/
def OutOfDate (current carried : ShardCopy) : Prop :=
  current.stage ≠ carried.stage ∨ current.node ≠ carried.node ∨ current.target ≠ carried.target

/-- In a list of such reports one that carries an old value of a copy leaves that copy as it is. -/
def LeavesOutdated {α : Type} (report : RoutingTable → α → Except AllocationError RoutingTable)
    (carried : α → ShardCopy) : Prop :=
  ∀ (t : RoutingTable) (before : List α) (x : α) (mid u : RoutingTable) (c : ShardCopy), t.Built →
    before.foldlM report t = .ok mid → report mid x = .ok u → mid.Has c → c.sameCopy (carried x) = true →
    OutOfDate c (carried x) → u.Has c

/-- The primary of an index is on its way from one node to another. -/
def primaryMoving : RoutingTable :=
  (RoutingTable.empty.addIndex ⟨"logs", 1, 0, .initial⟩ .emptyStore).update Balance.underway

theorem primaryMoving_built : primaryMoving.Built :=
  .update (.addIndex .empty _ _) _

/-- A start is heeded that carries the copy as it was before it was assigned; and where a list has a failure of a
moving copy twice, the second one, which is out of date by then, takes the copy off its node. -/
theorem outdated_reports_heeded :
    ¬ LeavesOutdated applyStart id ∧ ¬ LeavesOutdated (applyFailure ClusterState.dataPair.directory) Failure.copy := by
  constructor
  · intro h
    obtain ⟨u, hu, hmoved⟩ := ok_of_map (f := fun u => decide (u.Has Balance.underway)) (b := false)
      (x := applyStart primaryMoving (.placeholder ⟨"logs", 0⟩ 0)) (by decide +kernel)
    have hkept := h primaryMoving [] _ primaryMoving u Balance.underway primaryMoving_built rfl hu (by decide) (by decide)
      (.inl (by decide))
    exact absurd hkept (of_decide_eq_false hmoved)
  · intro h
    let disk : Failure := ⟨Balance.underway, "disk"⟩
    obtain ⟨mid, hmid, hstill⟩ := ok_of_map
      (f := fun mid => decide (mid.Has Balance.underway.cancelRelocation ∧
        ((applyFailure ClusterState.dataPair.directory mid disk).toOption.map fun u =>
          decide (u.Has Balance.underway.cancelRelocation)) = some false)) (b := true)
      (x := [disk].foldlM (applyFailure ClusterState.dataPair.directory) primaryMoving) (by decide +kernel)
    obtain ⟨hhas, hlost⟩ := of_decide_eq_true hstill
    obtain ⟨u, hu, hlost⟩ := ok_of_map hlost
    have hkept := h primaryMoving [disk] disk mid u _ primaryMoving_built hmid hu hhas (by decide) (.inl (by decide))
    exact absurd hkept (of_decide_eq_false hlost)

/-- What a report does depends on its shard and number, on the value that the table has for that copy, and on the
message of a failure. A start is ignored exactly where the copy does not recover, so always where an earlier report of
the list named it; a failure is ignored exactly where the copy is unassigned, so always where it was named as often as
it takes to unassign it. -/
theorem reports_by_number {s : ClusterState} (hs : s.routing.Built) :
    (∀ (before : List ShardCopy) (x : ShardCopy) (t u : RoutingTable),
      before.foldlM applyStart s.routing = .ok t → applyStart t x = .ok u →
        ∃ c, t.Has c ∧ c.sameCopy x = true ∧ (∀ y, c.sameCopy y = true → applyStart t y = .ok u) ∧
          (u = t ↔ c.isUnassigned = true ∨ c.isStarted = true) ∧
          (before.any (·.sameCopy x) = true → u = t)) ∧
    ∀ (before : List Failure) (f : Failure) (t u : RoutingTable),
      before.foldlM (applyFailure s.directory) s.routing = .ok t → applyFailure s.directory t f = .ok u →
        ∃ b c, s.routing.Has b ∧ b.sameCopy f.copy = true ∧ t.Has c ∧ c.sameCopy f.copy = true ∧
          (∀ y, c.sameCopy y = true → applyFailure s.directory t ⟨y, f.message⟩ = .ok u) ∧
          (u = t ↔ c.isUnassigned = true) ∧
          (b.reportsLeft ≤ (before.countP fun g => g.copy.sameCopy f.copy) → u = t) := by
  have hw : s.routing.WellFormed := hs.wellFormed
  refine ⟨fun before x t u ht hu => ?_, fun before f t u ht hu => ?_⟩
  · have hwt : t.WellFormed := (applyStarts_age hw ht).1
    obtain ⟨c, hc, hx, hstarts⟩ := applyStart_ok hwt hu
    have hignored := hstarts.eq_iff hwt hc
    refine ⟨c, hc, hx, fun y hy => applyStart_congr hc hy hx ▸ hu, ?_, fun hnamed => hignored.2 ?_⟩
    · rw [hignored, ShardCopy.isRecovering_eq_false_iff]
    · obtain ⟨b, hb, rfl⟩ := (applyStarts_has_iff hw ht).1 hc
      have hbx : b.sameCopy x = true := ShardCopy.sameCopy_congr (b.afterStarts_sameCopy before) ▸ hx
      refine ShardCopy.isRecovering_afterStarts ?_
      simpa only [ShardCopy.sameCopy_congr_right hbx] using hnamed
  · obtain ⟨hwt, hages⟩ := applyFailures_age hw ht
    obtain ⟨c, hc, hf, hfails⟩ := applyFailure_ok hwt hu
    obtain ⟨b, hb, hbc⟩ := hages c hc
    have hbf : b.sameCopy f.copy = true := ShardCopy.sameCopy_congr hbc.yields.same ▸ hf
    have hignored := hfails.eq_iff hwt hc
    refine ⟨b, c, hb, hbf, hc, hf, fun y hy => applyFailure_congr hc hy hf ▸ hu, hignored, fun hspent => hignored.2 ?_⟩
    obtain ⟨d, hd, hbd, hleft⟩ := applyFailures_reportsLeft hw ht hb
    obtain rfl := hc.eq_of_sameCopy hd (ShardCopy.sameCopy_congr hbc.yields.same ▸ hbd)
    refine ShardCopy.reportsLeft_eq_zero.1 ?_
    have hcount : (before.countP fun g => g.copy.sameCopy b) = before.countP fun g => g.copy.sameCopy f.copy := by
      simp only [ShardCopy.sameCopy_congr_right hbf]
    omega

theorem repeats_ignored : primaryMoving.Built ∧
    (∃ t u, [Balance.underway].foldlM applyStart primaryMoving = .ok t ∧ applyStart t Balance.underway = .ok u ∧ u = t) ∧
    ∃ t u, [⟨Balance.underway, "disk"⟩, ⟨Balance.underway, "disk"⟩].foldlM
        (applyFailure ClusterState.dataPair.directory) primaryMoving = .ok t ∧
      applyFailure ClusterState.dataPair.directory t ⟨Balance.underway, "disk"⟩ = .ok u ∧ u = t := by
  obtain ⟨hstarts, hfailures⟩ :=
    reports_by_number (s := { ClusterState.dataPair with routing := primaryMoving }) primaryMoving_built
  refine ⟨primaryMoving_built, ?_, ?_⟩
  · obtain ⟨t, ht, hdone⟩ := ok_of_map (f := fun t => (applyStart t Balance.underway).toOption.map fun _ => ())
      (b := some ()) (x := [Balance.underway].foldlM applyStart primaryMoving) (by decide +kernel)
    obtain ⟨u, hu, _⟩ := ok_of_map hdone
    obtain ⟨_, _, _, _, _, hrepeated⟩ := hstarts _ _ _ _ ht hu
    exact ⟨t, u, ht, hu, hrepeated (by decide)⟩
  · obtain ⟨t, ht, hdone⟩ := ok_of_map
      (f := fun t => (applyFailure ClusterState.dataPair.directory t ⟨Balance.underway, "disk"⟩).toOption.map fun _ => ())
      (b := some ()) (x := [⟨Balance.underway, "disk"⟩, ⟨Balance.underway, "disk"⟩].foldlM
        (applyFailure ClusterState.dataPair.directory) primaryMoving) (by decide +kernel)
    obtain ⟨u, hu, _⟩ := ok_of_map hdone
    obtain ⟨b, _, hb, hs, _, _, _, _, hrepeated⟩ := hfailures _ _ _ _ ht hu
    have hmoving : primaryMoving.Has Balance.underway := by decide
    obtain rfl := hmoving.eq_of_sameCopy hb (ShardCopy.sameCopy_comm ▸ hs)
    exact ⟨t, u, ht, hu, hrepeated (by decide)⟩

end AllocationService

end ClusterControl
