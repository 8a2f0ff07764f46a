import ClusterControl.Proofs.Routing.Alignment

/-!
Who leads a shard. A shard is led while it has an active primary. A loss leaves it led as long as some other
active copy of it is on a node of the directory: either the primary is not the one that is lost, or there is an
heir. So taking copies off the nodes that left keeps every shard led that has an active copy elsewhere.
-/

namespace ClusterControl

theorem ShardCopy.Fits.node_of_active {c : ShardCopy} (h : c.Fits) (ha : c.isActive = true) :
    ∃ id, c.node = some id := by
  have hn := h.node
  cases hs : c.stage <;> simp_all [isActive, isStarted, isRelocating, isUnassigned, Option.isSome_iff_exists]

namespace RoutingTable

variable {t u : RoutingTable} {c d e : ShardCopy} {info : UnassignedInfo} {directory : Directory} {shard : ShardId}

/-- The shard has an active primary. -/
def LedAt (t : RoutingTable) (shard : ShardId) : Prop :=
  ∃ p, t.Has p ∧ p.shard = shard ∧ p.primary = true ∧ p.isActive = true

/-- Every shard with an active copy has an active primary. -/
def Led (t : RoutingTable) : Prop :=
  ∀ c, t.Has c → c.isActive = true → t.LedAt c.shard

/-- Every shard with an active copy on a node of the directory has an active primary. -/
def LedOn (t : RoutingTable) (directory : Directory) : Prop :=
  ∀ c, t.Has c → c.isActive = true → isStranded directory c = false → t.LedAt c.shard

theorem Led.on (h : t.Led) (directory : Directory) : t.LedOn directory :=
  fun c hc ha _ => h c hc ha

theorem LedOn.led (h : t.LedOn directory) (hh : t.Housed directory) : t.Led := by
  intro c hc ha
  refine h c hc ha ?_
  have haway := housed_iff.1 hh c hc
  rw [isAway, Bool.or_eq_false_iff] at haway
  exact haway.1

theorem LedAt.lasting (h : t.LedAt shard) (hl : t.Lasting u) : u.LedAt shard := by
  obtain ⟨p, hp, rfl, hprimary, hactive⟩ := h
  obtain ⟨q, hq, hpq⟩ := hl.kept p hp
  exact ⟨q, hq, (ShardCopy.sameCopy_iff.1 hpq.same).1.symm, hpq.primary.trans hprimary, hpq.active.trans hactive⟩

theorem Lasting.led_iff (hl : t.Lasting u) : u.Led ↔ t.Led := by
  constructor
  · intro h c hc ha
    obtain ⟨d, hd, hcd⟩ := hl.kept c hc
    obtain ⟨q, hq, hs, hprimary, hactive⟩ := h d hd (hcd.active.trans ha)
    obtain ⟨p, hp, hpq⟩ := hl.origin q hq
    refine ⟨p, hp, ?_, hpq.primary.symm.trans hprimary, hpq.active.symm.trans hactive⟩
    rw [(ShardCopy.sameCopy_iff.1 hpq.same).1, hs, (ShardCopy.sameCopy_iff.1 hcd.same).1]
  · intro h d hd ha
    obtain ⟨c, hc, hcd⟩ := hl.origin d hd
    rw [← (ShardCopy.sameCopy_iff.1 hcd.same).1]
    exact (h c hc (hcd.active.symm.trans ha)).lasting hl

theorem isHeir_of_active (ha : e.isActive = true) (hn : e.node.any directory.contains = true)
    (hp : e.primary = false) : e.isHeir directory = true := by
  simp [ShardCopy.isHeir, ha, hn, hp]

/-- The loss of one copy leaves the shard led while another one is active on a node of the directory. -/
theorem Loss.ledAt (h : Loss directory t c info u) (hw : t.WellFormed) (he : t.Has e) (hne : e.sameCopy c = false)
    (ha : e.isActive = true) (hn : e.node.any directory.contains = true) (hled : t.LedAt e.shard) :
    u.LedAt e.shard := by
  -- A copy other than the one that is lost goes on leading, if it does.
  have hother : ∀ p, t.Has p → p.sameCopy c = false → p.shard = e.shard → p.primary = true → p.isActive = true →
      u.LedAt e.shard := by
    intro p hp hpc hs hprimary hactive
    obtain ⟨q, hq, hk⟩ := h.others hw hp hpc
    refine ⟨q, hq, (ShardCopy.sameCopy_iff.1 hk.sameCopy).1.symm.trans hs, ?_, hk.isActive.trans hactive⟩
    rcases hk with rfl | ⟨_, rfl⟩
    · exact hprimary
    · rfl
  obtain ⟨p, hp, hs, hprimary, hactive⟩ := hled
  cases hpc : p.sameCopy c with
  | false => exact hother p hp hpc hs hprimary hactive
  | true =>
      obtain rfl := hp.eq_of_sameCopy h.has hpc
      cases h with
      | single _ hinactive =>
          rw [hinactive hprimary] at hactive
          cases hactive
      | last _ _ _ hnone =>
          cases hep : e.primary with
          | true => exact hother e he hne rfl hep ha
          | false =>
              have hno := hnone e he hs.symm
              rw [isHeir_of_active ha hn hep] at hno
              cases hno
      | @succeeded heir _ _ _ hh hsh hi =>
          have hself : heir.sameCopy heir.promote = true := heir.sameCopy_self
          have hpromoted : (t.update heir.promote).Has heir.promote := hh.update_self hw hself
          have hapart : heir.sameCopy p = false := by
            rw [ShardCopy.sameCopy_comm]
            exact sameCopy_heir hp hprimary hh hi
          refine ⟨heir.promote, hpromoted.update_of_ne (hw.update _) hapart, hsh.trans hs, rfl, ?_⟩
          simp only [ShardCopy.isHeir, Bool.and_eq_true] at hi
          exact hi.1.2

theorem Loss.ledOn (h : Loss directory t c info u) (hw : t.WellFormed) (hf : t.Fits) (hl : t.LedOn directory) :
    u.LedOn directory := by
  intro d hd ha hstranded
  rcases h.origin hw hd with rfl | ⟨rfl, _⟩ | ⟨e, he, hne, hk⟩
  · cases ha
  · cases ha
  · have hactive : e.isActive = true := hk.isActive.symm.trans ha
    have hnode : isStranded directory e = false := by rwa [isStranded, ← hk.node]
    obtain ⟨id, hid⟩ := (hf e he).node_of_active hactive
    rw [← (ShardCopy.sameCopy_iff.1 hk.sameCopy).1]
    exact h.ledAt hw he hne hactive (by simpa [isStranded, hid] using hnode) (hl e he hactive hnode)

theorem LedOn.cancelRelocation (hl : t.LedOn directory) (hw : t.WellFormed) (hc : t.Has c)
    (hr : c.isRelocating = true) : (t.update c.cancelRelocation).LedOn directory := by
  have hlasts : c.Lasts c.cancelRelocation := ShardCopy.lasts_cancelRelocation hr
  have hlasting : t.Lasting (t.update c.cancelRelocation) := lasting_update hw hc hlasts
  intro d hd ha hstranded
  rcases (hc.update_iff hw hlasts.same).1 hd with rfl | ⟨hd, _⟩
  · exact (hl c hc (by simp [ShardCopy.isActive, hr]) hstranded).lasting hlasting
  · exact (hl d hd ha hstranded).lasting hlasting

theorem Settling.ledOn (h : Settling directory t c u) (hw : t.WellFormed) (hf : t.Fits) (hl : t.LedOn directory) :
    u.LedOn directory := by
  cases h with
  | cancel hc hr => exact hl.cancelRelocation hw hc hr
  | loss _ h => exact h.ledOn hw hf hl

/-- Once no copy is on a node that left, a shard with an active copy is led. -/
theorem led_settled (hw : t.WellFormed) (hf : t.Fits) (hl : t.LedOn directory) : (t.settled directory).Led := by
  obtain ⟨hsteps, hhoused⟩ := settled_settling directory hw hf
  exact LedOn.led (settling_keeps (fun _ _ _ hw hf hs => hs.ledOn hw hf) hsteps hw hf hl) hhoused

end RoutingTable

theorem ClusterState.led_aligned {s : ClusterState} (hw : s.routing.WellFormed) (hl : s.routing.Led) :
    s.aligned.Led := by
  intro c hc ha
  rcases has_aligned_cases hw hc with ⟨hold, hi⟩ | ⟨_, _, _, hfresh⟩
  · obtain ⟨p, hp, hs, hprimary, hactive⟩ := hl c hold ha
    exact ⟨p, has_aligned hp (hs ▸ hi), hs, hprimary, hactive⟩
  · rw [(RoutingTable.vacant_of_mem_freshCopies hfresh).isActive] at ha
    cases ha

end ClusterControl
