import ClusterControl.Allocation.Service
import ClusterControl.Proofs.Routing.Lineage
import ClusterControl.Proofs.Success

/-!
Reports on copies. What a report does to a table depends on the value that the table has for the copy it names:
a copy that does not recover cannot start, a move that fails is given up, and a copy that fails otherwise loses
its place. Reports leave every copy on nodes that it was on.
-/

namespace ClusterControl

/-- What reports of starts make of a copy: it starts if it is named and receives its data. -/
def ShardCopy.afterStarts (started : List ShardCopy) (c : ShardCopy) : ShardCopy :=
  if started.any (·.sameCopy c) && c.isRecovering then c.start else c

theorem ShardCopy.afterStarts_sameCopy (c : ShardCopy) (started : List ShardCopy) :
    c.sameCopy (c.afterStarts started) = true := by
  rw [afterStarts]
  split <;> exact sameCopy_self c

namespace AllocationService

open RoutingTable

variable {t u : RoutingTable} {c current : ShardCopy} {directory : Directory} {message : String}

/-- What becomes of a table when a copy is reported as failed. -/
inductive Fails (directory : Directory) (t : RoutingTable) (c : ShardCopy) (message : String) : RoutingTable → Prop
  | ignored (hs : c.isUnassigned = true) : Fails directory t c message t
  | stays (hs : c.isRelocating = true) : Fails directory t c message (t.update c.cancelRelocation)
  | lost {u : RoutingTable} (hs : c.isInitializing = true ∨ c.isStarted = true)
      (h : Loss directory t c ⟨.allocationFailed, c.failures + 1, some message⟩ u) : Fails directory t c message u

/-- What becomes of a table when a copy is reported as started. -/
inductive Starts (t : RoutingTable) (c : ShardCopy) : RoutingTable → Prop
  | ignored (hs : c.isUnassigned = true ∨ c.isStarted = true) : Starts t c t
  | started (hs : c.isInitializing = true ∨ c.isRelocating = true) : Starts t c (t.update c.start)

theorem lookup_ok {c current : ShardCopy} (h : lookup t c = .ok current) : t.find? c.shard c.number = some current := by
  unfold lookup at h
  split at h
  case h_1 hf =>
    cases h
    exact hf
  case h_2 => cases h

theorem lookup_has (hw : t.WellFormed) (h : lookup t c = .ok current) :
    t.Has current ∧ current.sameCopy c = true := by
  have hf := lookup_ok h
  have hm := List.mem_of_find?_eq_some hf
  have hn : current.number = c.number := by simpa using List.find?_some hf
  exact ⟨hw.has_of_find? hf, ShardCopy.sameCopy_iff.2 ⟨hw.own _ current hm, hn⟩⟩

theorem lookup_of_has (hc : t.Has current) (hs : current.sameCopy c = true) : lookup t c = .ok current := by
  obtain ⟨hshard, hnumber⟩ := ShardCopy.sameCopy_iff.1 hs
  have hf : t.find? c.shard c.number = some current := hshard ▸ hnumber ▸ hc
  rw [lookup, hf]

theorem applyFailure_ok {failure : Failure} (hw : t.WellFormed) (h : applyFailure directory t failure = .ok u) :
    ∃ c, t.Has c ∧ c.sameCopy failure.copy = true ∧ Fails directory t c failure.message u := by
  obtain ⟨current, hl, h⟩ := bind_ok h
  obtain ⟨hc, hs⟩ := lookup_has hw hl
  refine ⟨current, hc, hs, ?_⟩
  cases h
  split
  case h_1 hstage => exact .stays (by simpa [ShardCopy.isRelocating] using hstage)
  case h_2 hstage =>
    refine .lost (.inl (by simpa [ShardCopy.isInitializing] using hstage)) (.single hc ?_)
    simp [ShardCopy.isActive, ShardCopy.isStarted, ShardCopy.isRelocating, hstage]
  case h_3 hstage =>
    have hstarted : current.isStarted = true := by simpa [ShardCopy.isStarted] using hstage
    refine .lost (.inr hstarted) ?_
    split
    case isTrue hp => exact hw.replacePrimary_loss hc hp (by simp [ShardCopy.isActive, hstarted])
    case isFalse hp => exact .single hc fun h => absurd h hp
  case h_4 hstage => exact .ignored (by simpa [ShardCopy.isUnassigned] using hstage)

theorem applyStart_ok {x : ShardCopy} (hw : t.WellFormed) (h : applyStart t x = .ok u) :
    ∃ c, t.Has c ∧ c.sameCopy x = true ∧ Starts t c u := by
  obtain ⟨current, hl, h⟩ := bind_ok h
  obtain ⟨hc, hs⟩ := lookup_has hw hl
  refine ⟨current, hc, hs, ?_⟩
  cases h
  split
  case isTrue hr => exact .started (by simpa using hr)
  case isFalse hr =>
    refine .ignored ?_
    cases hstage : current.stage <;>
      simp_all [ShardCopy.isInitializing, ShardCopy.isRelocating, ShardCopy.isUnassigned, ShardCopy.isStarted]

theorem Fails.wellFormed (h : Fails directory t c message u) (hw : t.WellFormed) : u.WellFormed := by
  cases h with
  | ignored => exact hw
  | stays => exact hw.update _
  | lost _ h => exact h.wellFormed hw

theorem Fails.ages (h : Fails directory t c message u) (hw : t.WellFormed) (hc : t.Has c) : t.Ages u := by
  cases h with
  | ignored => exact .refl t
  | stays hr => exact ages_update hw hc (.cancelRelocation hr)
  | lost hs h => exact h.ages hw (.fail message hs)

theorem Fails.yields (h : Fails directory t c message u) (hw : t.WellFormed) (hc : t.Has c) : t.Yields u :=
  (h.ages hw hc).yields

theorem Starts.wellFormed (h : Starts t c u) (hw : t.WellFormed) : u.WellFormed := by
  cases h with
  | ignored => exact hw
  | started => exact hw.update _

theorem Starts.ages (h : Starts t c u) (hw : t.WellFormed) (hc : t.Has c) : t.Ages u := by
  cases h with
  | ignored => exact .refl t
  | started hs => exact ages_update hw hc (.start (by simpa [ShardCopy.isRecovering] using hs))

theorem foldlM_keeps {α : Type} {P : RoutingTable → Prop} {report : RoutingTable → α → Except AllocationError RoutingTable}
    (hk : ∀ t u x, P t → report t x = .ok u → P u) {reports : List α} (ht : P t)
    (h : reports.foldlM report t = .ok u) : P u := by
  induction reports generalizing t with
  | nil =>
      cases h
      exact ht
  | cons x reports ih =>
      rw [List.foldlM_cons] at h
      obtain ⟨mid, hm, h⟩ := bind_ok h
      exact ih (hk t mid x ht hm) h

theorem reports_age {α : Type} {report : RoutingTable → α → Except AllocationError RoutingTable} {reports : List α}
    (hr : ∀ t u x, t.WellFormed → report t x = .ok u → u.WellFormed ∧ t.Ages u) (hw : t.WellFormed)
    (h : reports.foldlM report t = .ok u) : u.WellFormed ∧ t.Ages u := by
  refine foldlM_keeps (P := fun v => v.WellFormed ∧ t.Ages v) ?_ ⟨hw, .refl t⟩ h
  rintro v w x ⟨hv, ha⟩ hx
  obtain ⟨hw, ha'⟩ := hr v w x hv hx
  exact ⟨hw, ha.trans ha'⟩

theorem applyStarts_age {started : List ShardCopy} (hw : t.WellFormed) (h : started.foldlM applyStart t = .ok u) :
    u.WellFormed ∧ t.Ages u := by
  refine reports_age ?_ hw h
  intro t u x hw hx
  obtain ⟨c, hc, _, hs⟩ := applyStart_ok hw hx
  exact ⟨hs.wellFormed hw, hs.ages hw hc⟩

theorem applyFailures_age {failed : List Failure} (hw : t.WellFormed)
    (h : failed.foldlM (applyFailure directory) t = .ok u) : u.WellFormed ∧ t.Ages u := by
  refine reports_age ?_ hw h
  intro t u x hw hx
  obtain ⟨c, hc, _, hs⟩ := applyFailure_ok hw hx
  exact ⟨hs.wellFormed hw, hs.ages hw hc⟩

section Waiting

variable {d : ShardCopy}

theorem Starts.has_of_unassigned (h : Starts t c u) (hw : t.WellFormed) (hc : t.Has c) (hd : t.Has d)
    (hu : d.isUnassigned = true) : u.Has d := by
  cases h with
  | ignored => exact hd
  | started hs =>
      have hne : d ≠ c := by
        rintro rfl
        simp_all [ShardCopy.isUnassigned, ShardCopy.isInitializing, ShardCopy.isRelocating]
      have hother : d.sameCopy c = false := hd.not_sameCopy hc hne
      exact hd.update_of_ne hw hother

theorem Fails.has_of_unassigned (h : Fails directory t c message u) (hw : t.WellFormed) (hc : t.Has c) (hd : t.Has d)
    (hu : d.isUnassigned = true) : u.Has d := by
  have hstage : d.stage = .unassigned := by simpa [ShardCopy.isUnassigned] using hu
  cases h with
  | ignored => exact hd
  | stays hr =>
      have hne : d ≠ c := by
        rintro rfl
        simp [ShardCopy.isRelocating, hstage] at hr
      have hother : d.sameCopy c = false := hd.not_sameCopy hc hne
      exact hd.update_of_ne hw hother
  | lost hs h =>
      refine h.has_of_inactive hw hd ?_ (ShardCopy.isActive_of_isUnassigned hu)
      rintro rfl
      simp [ShardCopy.isInitializing, ShardCopy.isStarted, hstage] at hs

theorem applyStarts_has_of_unassigned {started : List ShardCopy} (hw : t.WellFormed)
    (h : started.foldlM applyStart t = .ok u) (hd : t.Has d) (hu : d.isUnassigned = true) : u.Has d := by
  refine (foldlM_keeps (P := fun t => t.WellFormed ∧ t.Has d) ?_ ⟨hw, hd⟩ h).2
  rintro t u x ⟨hw, hd⟩ hx
  obtain ⟨c, hc, _, hs⟩ := applyStart_ok hw hx
  exact ⟨hs.wellFormed hw, hs.has_of_unassigned hw hc hd hu⟩

theorem applyFailures_has_of_unassigned {failed : List Failure} (hw : t.WellFormed)
    (h : failed.foldlM (applyFailure directory) t = .ok u) (hd : t.Has d) (hu : d.isUnassigned = true) : u.Has d := by
  refine (foldlM_keeps (P := fun t => t.WellFormed ∧ t.Has d) ?_ ⟨hw, hd⟩ h).2
  rintro t u x ⟨hw, hd⟩ hx
  obtain ⟨c, hc, _, hs⟩ := applyFailure_ok hw hx
  exact ⟨hs.wellFormed hw, hs.has_of_unassigned hw hc hd hu⟩

end Waiting

section AfterStarts

variable {started : List ShardCopy} {d : ShardCopy}

theorem afterStarts_of_not_named {c : ShardCopy} (h : started.any (·.sameCopy c) = false) :
    c.afterStarts started = c := by
  simp [ShardCopy.afterStarts, h]

theorem afterStarts_of_not_recovering {c : ShardCopy} (h : c.isRecovering = false) : c.afterStarts started = c := by
  simp [ShardCopy.afterStarts, h]

theorem afterStarts_cons (x c : ShardCopy) :
    c.afterStarts (x :: started) = (c.afterStarts [x]).afterStarts started := by
  -- The first report that names a copy ends its recovery, and later ones find nothing to do.
  cases hr : c.isRecovering with
  | false => simp only [afterStarts_of_not_recovering hr]
  | true =>
      cases hx : x.sameCopy c with
      | false =>
          have hx' : c.afterStarts [x] = c := afterStarts_of_not_named (by simp [hx])
          rw [hx']
          simp [ShardCopy.afterStarts, hx]
      | true =>
          have hx' : c.afterStarts [x] = c.start := by simp [ShardCopy.afterStarts, hx, hr]
          have hdone : c.start.isRecovering = false := rfl
          rw [hx', afterStarts_of_not_recovering hdone]
          simp [ShardCopy.afterStarts, hx, hr]

theorem applyStart_eq {x : ShardCopy} (hw : t.WellFormed) (hc : t.Has c) (hx : c.sameCopy x = true) :
    applyStart t x = .ok (t.mapCopies fun d => d.afterStarts [x]) := by
  have hnamed : ∀ d, x.sameCopy d = d.sameCopy c := by
    intro d
    rw [← ShardCopy.sameCopy_congr hx, ShardCopy.sameCopy_comm]
  rw [applyStart, lookup_of_has hc hx]
  refine congrArg Except.ok ?_
  split
  case isTrue hr =>
    rw [hw.update_eq]
    refine hw.mapCopies_congr fun d hd => ?_
    have hstart : d.sameCopy c.start = x.sameCopy d := (hnamed d).symm
    rw [hstart]
    split
    case isTrue hs =>
      obtain rfl := hd.eq_of_sameCopy hc (hnamed d ▸ hs)
      have hd : d.isRecovering = true := hr
      simp [ShardCopy.afterStarts, hs, hd]
    case isFalse hs => simp [ShardCopy.afterStarts, hs]
  case isFalse hr =>
    refine (hw.mapCopies_id fun d hd => ?_).symm
    by_cases hs : x.sameCopy d = true
    · obtain rfl := hd.eq_of_sameCopy hc (hnamed d ▸ hs)
      exact afterStarts_of_not_recovering (Bool.eq_false_iff.2 hr)
    · exact afterStarts_of_not_named (by simpa using hs)

/-- Reports of starts are refused at the first one that names no copy of the table, and else change the copies that
they name where these stand. -/
theorem applyStarts_cases (hw : t.WellFormed) :
    (∃ x ∈ started, t.find? x.shard x.number = none ∧ started.foldlM applyStart t = .error (.unknownShard x.render)) ∨
      (∀ x ∈ started, t.find? x.shard x.number ≠ none) ∧
        started.foldlM applyStart t = .ok (t.mapCopies fun c => c.afterStarts started) := by
  induction started generalizing t with
  | nil =>
      refine .inr ⟨by simp, ?_⟩
      rw [hw.mapCopies_id fun c _ => afterStarts_of_not_named rfl]
      rfl
  | cons x started ih =>
      rw [List.foldlM_cons]
      cases hf : t.find? x.shard x.number with
      | none =>
          refine .inl ⟨x, List.mem_cons_self, hf, ?_⟩
          rw [applyStart, lookup, hf]
          rfl
      | some c =>
          have hc : t.Has c := hw.has_of_find? hf
          have hx : c.sameCopy x = true := (lookup_has hw (by rw [lookup, hf])).2
          have hsame : ∀ d : ShardCopy, d.sameCopy (d.afterStarts [x]) = true := fun d => d.afterStarts_sameCopy [x]
          -- The report leaves every copy under its shard and number, so the later ones find what they would have found.
          have hfound : ∀ y : ShardCopy, (t.mapCopies fun d => d.afterStarts [x]).find? y.shard y.number = none ↔
              t.find? y.shard y.number = none := by
            intro y
            rw [find?_mapCopies hsame, Option.map_eq_none_iff]
          rw [applyStart_eq hw hc hx]
          rcases ih (hw.mapCopies hsame) with ⟨y, hy, hn, he⟩ | ⟨hall, hok⟩
          · exact .inl ⟨y, List.mem_cons_of_mem x hy, (hfound y).1 hn, he⟩
          · refine .inr ⟨?_, hok.trans ?_⟩
            · refine List.forall_mem_cons.2 ⟨by simp [hf], fun y hy => ?_⟩
              rw [Ne, ← hfound]
              exact hall y hy
            · rw [mapCopies_mapCopies]
              refine congrArg Except.ok (hw.mapCopies_congr fun d _ => ?_)
              exact (afterStarts_cons x d).symm

/-- The copies after reports of starts, whatever their order and however often a copy is named. -/
theorem applyStarts_has_iff (hw : t.WellFormed) (h : started.foldlM applyStart t = .ok u) :
    u.Has d ↔ ∃ c, t.Has c ∧ d = c.afterStarts started := by
  rcases applyStarts_cases hw with ⟨x, _, _, he⟩ | ⟨_, hok⟩
  · rw [he] at h
    cases h
  · obtain rfl := Except.ok.inj (hok.symm.trans h)
    exact hw.has_mapCopies fun c => c.afterStarts_sameCopy started

end AfterStarts

end AllocationService

end ClusterControl
