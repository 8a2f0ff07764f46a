import ClusterControl.Proofs.Routing.Departure

/-!
What becomes of copies between the steps of the allocator. A copy starts, fails, leaves its node, gives up a move
or changes its role; nothing else happens to it, and each of its turns leaves it on nodes that it was on. So what
no turn takes from a copy is still there after reports, and after copies were taken off the nodes that left. A copy
that waits for a node takes no turn, whatever happens to others.
-/

namespace ClusterControl

namespace ShardCopy

variable {c d : ShardCopy}

/-- One turn in the life of a copy, apart from its assignment and the begin of a move. -/
inductive Turn (c : ShardCopy) : ShardCopy → Prop
  | start (hr : c.isRecovering = true) : Turn c c.start
  | cancelRelocation (hr : c.isRelocating = true) : Turn c c.cancelRelocation
  | fail (message : String) (hs : c.isInitializing = true ∨ c.isStarted = true) : Turn c (c.fail message)
  | leave (hn : c.node.isSome = true) : Turn c c.leave
  | promote (hp : c.primary = false) (ha : c.isActive = true) : Turn c c.promote
  | demote (hp : c.primary = true) (hu : c.isUnassigned = true) : Turn c c.demote

theorem Turn.yields (h : c.Turn d) : c.Yields d := by
  cases h with
  | start hr =>
      refine yields_start ?_
      cases hs : c.stage <;> simp_all [isRecovering, isInitializing, isRelocating, isUnassigned]
  | cancelRelocation hr => exact yields_cancelRelocation hr
  | fail | leave => exact yields_unassign _
  | promote => exact yields_promote
  | demote => exact yields_demote

/-- Some turns later. -/
def Lives : ShardCopy → ShardCopy → Prop :=
  Relation.ReflTransGen Turn

theorem Lives.yields (h : c.Lives d) : c.Yields d := by
  induction h with
  | refl => exact .refl c
  | tail _ ht ih => exact ih.trans ht.yields

theorem Lives.keeps {P : ShardCopy → Prop} (hk : ∀ c d, c.Turn d → P c → P d) (h : c.Lives d) (hc : P c) : P d := by
  induction h with
  | refl => exact hc
  | tail _ ht ih => exact hk _ _ ht ih

end ShardCopy

namespace RoutingTable

variable {t u v : RoutingTable} {c d : ShardCopy} {info : UnassignedInfo} {directory : Directory}

/-- Every copy is one that was there before, some turns later. -/
def Ages (t u : RoutingTable) : Prop :=
  ∀ d, u.Has d → ∃ c, t.Has c ∧ c.Lives d

theorem Ages.refl (t : RoutingTable) : t.Ages t :=
  fun c hc => ⟨c, hc, .refl⟩

theorem Ages.trans (h : t.Ages u) (h' : u.Ages v) : t.Ages v := by
  intro e he
  obtain ⟨d, hd, hde⟩ := h' e he
  obtain ⟨c, hc, hcd⟩ := h d hd
  exact ⟨c, hc, Relation.ReflTransGen.trans hcd hde⟩

theorem Ages.yields (h : t.Ages u) : t.Yields u := by
  intro d hd
  obtain ⟨c, hc, hcd⟩ := h d hd
  exact .inr ⟨c, hc, hcd.yields⟩

theorem ages_update (hw : t.WellFormed) (hc : t.Has c) (ht : c.Turn d) : t.Ages (t.update d) := by
  intro e he
  rcases (hc.update_iff hw ht.yields.same).1 he with rfl | ⟨he, _⟩
  · exact ⟨c, hc, .single ht⟩
  · exact ⟨e, he, .refl⟩

theorem Loss.ages (h : Loss directory t c info u) (hw : t.WellFormed) (ht : c.Turn (c.unassign info)) : t.Ages u := by
  intro d hd
  rcases h.origin hw hd with rfl | ⟨rfl, hp, _⟩ | ⟨e, he, _, rfl | ⟨hi, rfl⟩⟩
  · exact ⟨c, h.has, .single ht⟩
  · exact ⟨c, h.has, .tail (.single ht) (.demote hp rfl)⟩
  · exact ⟨d, he, .refl⟩
  · simp only [ShardCopy.isHeir, Bool.and_eq_true, Bool.not_eq_true'] at hi
    exact ⟨e, he, .single (.promote hi.1.1 hi.1.2)⟩

theorem Settling.ages (h : Settling directory t c u) (hw : t.WellFormed) : t.Ages u := by
  cases h with
  | cancel hc hr => exact ages_update hw hc (.cancelRelocation hr)
  | loss hs h =>
      refine h.ages hw (.leave ?_)
      cases hn : c.node with
      | none => simp [isStranded, hn] at hs
      | some => rfl

theorem ages_settled (hw : t.WellFormed) (hf : t.Fits) : t.Ages (t.settled directory) :=
  settling_keeps (P := t.Ages) (fun _ _ _ hw _ hs ha => ha.trans (hs.ages hw)) (settled_settling _ hw hf).1 hw hf
    (.refl t)

section Waiting

theorem Has.not_sameCopy (hd : t.Has d) (hc : t.Has c) (hn : d ≠ c) : d.sameCopy c = false := by
  rw [← Bool.not_eq_true]
  exact fun hs => hn (hd.eq_of_sameCopy hc hs)

theorem Loss.has_of_inactive (h : Loss directory t c info u) (hw : t.WellFormed) (hd : t.Has d) (hn : d ≠ c)
    (ha : d.isActive = false) : u.Has d := by
  obtain ⟨e, he, rfl | ⟨hi, _⟩⟩ := h.others hw hd (hd.not_sameCopy h.has hn)
  · exact he
  · simp [ShardCopy.isHeir, ha] at hi

theorem Settling.has_of_unassigned (h : Settling directory t c u) (hw : t.WellFormed) (hf : t.Fits) (hd : t.Has d)
    (hu : d.isUnassigned = true) : u.Has d := by
  have hstage : d.stage = .unassigned := by simpa [ShardCopy.isUnassigned] using hu
  cases h with
  | cancel hc hr =>
      have hne : d ≠ c := by
        rintro rfl
        simp [ShardCopy.isRelocating, hstage] at hr
      have hother : d.sameCopy c = false := hd.not_sameCopy hc hne
      exact hd.update_of_ne hw hother
  | loss hs h =>
      refine h.has_of_inactive hw hd ?_ (ShardCopy.isActive_of_isUnassigned hu)
      rintro rfl
      have hnode : d.node = none := by simpa [hu] using (hf d hd).node
      simp [isStranded, hnode] at hs

theorem has_settled (hw : t.WellFormed) (hf : t.Fits) (hd : t.Has d) (hu : d.isUnassigned = true) :
    (t.settled directory).Has d :=
  settling_keeps (P := fun t => t.Has d) (fun _ _ _ hw hf hs hd => hs.has_of_unassigned hw hf hd hu)
    (settled_settling _ hw hf).1 hw hf hd

end Waiting

end RoutingTable

end ClusterControl
