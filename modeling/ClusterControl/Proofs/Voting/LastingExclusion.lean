import ClusterControl.Proofs.Cluster.Bootstrap

/-!
Exclusions by id last. Whatever joins, leaves or is excluded besides, a node that an exclusion names
by its id is not accepted again, and once it is out of the committed configuration it stays out until
the exclusions are cleared.
-/

namespace ClusterControl

namespace ClusterState

/-- No id that a stored exclusion carries is in the accepted configuration. -/
def ExcludesById (s : ClusterState) : Prop :=
  ∀ e ∈ s.coordination.exclusions, ∀ id ∈ e.nodeId, s.coordination.accepted.contains id = false

theorem excludesById_bootstrap (d : Directory) : (bootstrap d).ExcludesById := by
  intro e he
  exact absurd he (SortedBy.not_mem_empty e)

variable {s : ClusterState} {id : NodeId} {e : Exclusion}

theorem excludesById_withExclusions (s : ClusterState) (exclusions : ExclusionSet) :
    (s.withExclusions exclusions).ExcludesById := by
  intro e he id hid
  rw [Bool.eq_false_iff]
  intro hv
  obtain ⟨_, _, _, _, hn⟩ := withExclusions_accepted.1 hv
  exact hn e he hid

theorem ExcludesById.join (h : s.ExcludesById) (node : Node) : (s.join node).ExcludesById := by
  intro e he id hid
  rw [join_exclusions] at he
  rw [Bool.eq_false_iff]
  intro hv
  rcases join_accepted.1 hv with hv | ⟨rfl, _, hn⟩
  · simp [h e he id hid] at hv
  · exact absurd (hn e he) (by simp [Exclusion.selects_of_nodeId hid])

theorem ExcludesById.leave (h : s.ExcludesById) (id : NodeId) : (s.leave id).ExcludesById := by
  intro e he other hid
  rw [Bool.eq_false_iff]
  intro hv
  have := h e he other hid
  simp [(leave_accepted.1 hv).1] at this

/-- An exclusion of this id is stored, and the node is out of both configurations. -/
structure KeepsOut (s : ClusterState) (e : Exclusion) (id : NodeId) : Prop where
  stored : e ∈ s.coordination.exclusions
  named : e.nodeId = some id
  accepted : s.ExcludesById
  committed : s.coordination.committed.contains id = false

end ClusterState

namespace Change

variable {settings : Settings} {s next : ClusterState} {change : Change} {e : Exclusion}

theorem Makes.excludesById (h : change.Makes settings s next) (hs : s.ExcludesById) : next.ExcludesById := by
  cases h with
  | join node => exact hs.join node
  | leave id => exact hs.leave id
  | exclude | clear => exact ClusterState.excludesById_withExclusions s _

/-- Nothing but clearing ends an exclusion. -/
theorem Makes.still_excluded (h : change.Makes settings s next) (hc : change ≠ .clear)
    (he : e ∈ s.coordination.exclusions) : e ∈ next.coordination.exclusions := by
  cases h with
  | join node => rwa [ClusterState.join_exclusions]
  | leave id => exact he
  | exclude request resolved => exact SortedSet.mem_union.2 (.inl he)
  | clear => exact absurd rfl hc

end Change

namespace Publication

variable {p : Publication} {change : Change} {next : ClusterState} {e : Exclusion} {id : NodeId}

theorem Enacts.excludesById (h : p.Enacts change next) (hs : p.before.ExcludesById) : p.state.ExcludesById := by
  have hn := h.makes.excludesById hs
  intro e he id hid
  rw [h.accepted]
  exact hn e (h.exclusions ▸ he) id hid

/-- Whether the accepted configuration is committed or not, the node stays out. -/
theorem Enacts.keepsOut (h : p.Enacts change next) (hc : p.task ≠ .clear) (hs : p.before.KeepsOut e id) :
    p.state.KeepsOut e id := by
  have hne : change ≠ .clear := by
    rintro rfl
    exact hc h.task
  have hn := h.makes.excludesById hs.accepted
  have he := h.makes.still_excluded hne hs.stored
  refine ⟨h.exclusions ▸ he, hs.named, h.excludesById hs.accepted, ?_⟩
  rw [h.committed]
  split
  case isTrue => exact hs.committed
  case isFalse => exact hn e he id hs.named

end Publication

namespace System

variable {d : Directory} {settings : Settings} {reconcilers : List Reconciler} {events more : List Event}

theorem bootstrap_excludesById (hr : ∀ r ∈ reconcilers, r.KeepsMembership)
    (hc : ∀ call ∈ Event.calls events, call.WithinMembership) :
    ((bootstrap d settings reconcilers).run events).service.state.ExcludesById ∧
      ∀ p ∈ (bootstrap d settings reconcilers).history events, p.state.ExcludesById :=
  bootstrap_keeps hr hc (ClusterState.excludesById_bootstrap d) (fun _ _ _ hn hs => hn.excludesById hs)

/-- In every published state the accepted configuration has none of the ids that are excluded, and an
id that is out of the committed configuration too stays out of it until the exclusions are cleared. -/
theorem excluded_ids_stay_out (hr : ∀ r ∈ reconcilers, r.KeepsMembership)
    (hc : ∀ call ∈ Event.calls (events ++ more), call.WithinMembership) :
    let sys := (bootstrap d settings reconcilers).run events
    ∀ e ∈ sys.service.state.coordination.exclusions, ∀ id ∈ e.nodeId,
      sys.service.state.coordination.accepted.contains id = false ∧
      ((∀ p ∈ sys.history more, p.task ≠ .clear) →
        sys.service.state.coordination.committed.contains id = false →
        (sys.run more).service.state.coordination.committed.contains id = false) := by
  intro sys e he id hid
  have hb : sys.service.state.ExcludesById := by
    refine (bootstrap_excludesById hr ?_).1
    intro call hm
    exact hc call (Event.calls_append events more ▸ List.mem_append_left _ hm)
  refine ⟨hb e he id hid, ?_⟩
  intro hn hout
  have hk : sys.service.state.KeepsOut e id := ⟨he, hid, hb, hout⟩
  have he : ∀ p ∈ sys.history more, ∃ change next, p.Enacts change next :=
    fun p hp => bootstrap_enacts hr hc p (mem_history_append hp)
  exact ((history_linked sys more).keeps_enacted (P := fun s => s.KeepsOut e id) he hk
    (fun p hp _ _ ht hs => ht.keepsOut (hn p hp) hs)).1.committed

theorem excluded_id_stays_out_after_rejoin :
    ((trio.run (Event.served 0 [.exclude (.ofIds ["n3"])])).run
      (Event.served 1 [.update (.leave "n3"), .update (.join (.voter "n3" "node3"))])
      ).service.state.coordination.committed.contains "n3" = false := by
  have hc : ∀ call ∈ Event.calls (Event.served 0 [.exclude (.ofIds ["n3"])] ++
      Event.served 1 [.update (.leave "n3"), .update (.join (.voter "n3" "node3"))]),
      call.WithinMembership := by
    simp only [Event.calls_append, Event.calls_served, List.forall_mem_append, List.forall_mem_singleton,
      List.forall_mem_cons]
    exact ⟨trivial, ⟨.leave "n3", rfl⟩, ⟨.join (.voter "n3" "node3"), rfl⟩⟩
  have hs : ((trio.run (Event.served 0 [.exclude (.ofIds ["n3"])])).history
      (Event.served 1 [.update (.leave "n3"), .update (.join (.voter "n3" "node3"))])).map
      (fun p => p.task.source) = ["node-left", "node-join"] := by decide
  refine (excluded_ids_stay_out (d := .trio) trio_keepsMembership hc ⟨"n3", "node3"⟩ (by decide) "n3" rfl).2
    ?_ (by decide)
  intro p hp ht
  have hm : p.task.source ∈ ["node-left", "node-join"] := hs ▸ List.mem_map_of_mem hp
  rw [ht] at hm
  revert hm
  decide

end System

end ClusterControl
