import ClusterControl.Proofs.Cluster.Bootstrap
import ClusterControl.Proofs.Voting.Request

/-!
Requests made again. Once its task succeeded, all that a request asks for is stored, and it asks for no
more while the nodes and the exclusions stay as they are. A request by ids does not even if others add
exclusions and nodes that may vote leave.
-/

namespace ClusterControl

namespace ClusterState

/-- The nodes and the exclusions are the same, whatever became of the rest. -/
structure SameMembership (s t : ClusterState) : Prop where
  directory : t.directory = s.directory
  exclusions : t.coordination.exclusions = s.coordination.exclusions

/-- The states that come of one as others add exclusions, nodes that may vote leave, and what these tasks
make is published. -/
inductive Attrition (s : ClusterState) : ClusterState → Prop
  | start : Attrition s s
  | published {t u : ClusterState} (h : Attrition s t) (hs : t.SameMembership u) : Attrition s u
  | excluded {t u : ClusterState} (h : Attrition s t) (settings : Settings) (request : ExclusionRequest)
      (hr : (Task.exclude request).run settings t = .ok u) : Attrition s u
  | left {t u : ClusterState} {node : Node} (h : Attrition s t) (hn : node ∈ t.directory.toList)
      (hm : node.isMasterEligible = true) (settings : Settings)
      (hr : (Task.leave node.id).run settings t = .ok u) : Attrition s u

theorem Attrition.trans {s t u : ClusterState} (h : s.Attrition t) (h' : t.Attrition u) : s.Attrition u := by
  induction h' with
  | start => exact h
  | published _ hs ih => exact .published ih hs
  | excluded _ settings request hr ih => exact .excluded ih settings request hr
  | left _ hn hm settings hr ih => exact .left ih hn hm settings hr

end ClusterState

/-- The publication adds exclusions, or a node that may vote leaves by it. -/
def Publication.Depletes (p : Publication) : Prop :=
  p.Excludes ∨ ∃ node ∈ p.before.directory.toList, node.isMasterEligible = true ∧ p.task = .leave node.id

namespace System

theorem attrition_run {sys : System} {events : List Event} (hk : ∀ r ∈ sys.service.reconcilers, r.KeepsMembership)
    (hd : ∀ p ∈ sys.history events, p.Depletes) :
    sys.service.state.Attrition (sys.run events).service.state := by
  have hl := history_linked sys events
  refine (hl.keeps (P := sys.service.state.Attrition) .start ?_).1
  intro p hp ha
  have hk : ∀ r ∈ p.service.reconcilers, r.KeepsMembership := history_reconcilers sys events p hp ▸ hk
  rcases hd p hp with ⟨request, ht⟩ | ⟨node, hn, hm, ht⟩
  · have ht : p.task = (Change.exclude request).task := ht
    obtain ⟨next, he⟩ := (hl.sound p hp).enacts hk ht
    exact .published (.excluded ha _ request he.makes.run) ⟨he.directory, he.exclusions⟩
  · have ht : p.task = (Change.leave node.id).task := ht
    obtain ⟨next, he⟩ := (hl.sound p hp).enacts hk ht
    exact .published (.left ha hn hm _ he.makes.run) ⟨he.directory, he.exclusions⟩

end System

namespace ExclusionRequest

variable {r other : ExclusionRequest} {settings : Settings} {s t next : ClusterState} {node : Node} {id : NodeId}

theorem idTarget?_congr (h : s.SameMembership t) : idTarget? t = idTarget? s := by
  funext id
  rw [idTarget?, idTarget?, h.directory, h.exclusions]

theorem resolve_congr (h : s.SameMembership t) : r.resolve t = r.resolve s := by
  have hname : nameTarget? t = nameTarget? s := by
    funext name
    rw [nameTarget?, nameTarget?, h.directory, h.exclusions]
  simp only [resolve, idTarget?_congr h, hname, h.directory]

theorem StoredIn.congr (hs : r.StoredIn s) (h : s.SameMembership t) : r.StoredIn t := by
  obtain ⟨resolved, hr, he⟩ := hs
  refine ⟨resolved, (resolve_congr h).trans hr, fun e hm => ?_⟩
  rw [h.exclusions]
  exact he e hm

theorem idTarget?_stored {exclusions : ExclusionSet} (h : ∀ e ∈ idTarget? s id, e ∈ exclusions) :
    ∀ e ∈ idTarget? (s.withExclusions exclusions) id, e ∈ exclusions :=
  target?_stored (decide_eq_true rfl) h

theorem nameTarget?_stored {exclusions : ExclusionSet} {name : String}
    (h : ∀ e ∈ nameTarget? s name, e ∈ exclusions) :
    ∀ e ∈ nameTarget? (s.withExclusions exclusions) name, e ∈ exclusions :=
  target?_stored (decide_eq_true rfl) h

theorem storedIn_exclude (h : (Task.exclude r).run settings s = .ok next) : r.StoredIn next := by
  have hmakes : (Change.exclude r).Makes settings s next := Change.makes_of_run h
  cases hmakes with
  | exclude _ resolved hr _ =>
      have hv := isValid_of_resolve hr
      have hu : ∀ e ∈ resolved, e ∈ s.coordination.exclusions.union resolved :=
        fun e he => SortedSet.mem_union.2 (.inr he)
      -- descriptors find the same nodes again; an id or a name may find what was stored for it
      by_cases hd : r.descriptions = []
      · rw [storedIn_targets hv hd]
        refine ⟨fun id hid => idTarget?_stored fun e ht => ?_, fun name hname => nameTarget?_stored fun e ht => ?_⟩
        · exact hu e ((mem_resolve_targets hd hr).2 (.inl ⟨id, hid, ht⟩))
        · exact hu e ((mem_resolve_targets hd hr).2 (.inr ⟨name, hname, ht⟩))
      · exact ⟨resolved, (resolve_descriptions hd ClusterState.withExclusions_directory).trans hr, hu⟩

/-- What the ids of a request ask for is stored, and it names nothing else. -/
structure IdsStoredIn (r : ExclusionRequest) (s : ClusterState) : Prop where
  valid : r.isValid = true
  descriptions : r.descriptions = []
  names : r.names = []
  targets : ∀ id ∈ r.ids, ∀ e ∈ idTarget? s id, e ∈ s.coordination.exclusions

theorem StoredIn.ids (h : r.StoredIn s) (hi : r.ids ≠ []) : r.IdsStoredIn s := by
  obtain ⟨resolved, hr, he⟩ := h
  have hv := isValid_of_resolve hr
  cases kind_of_isValid hv with
  | ids hd _ hn => exact ⟨hv, hd, hn, ((storedIn_targets hv hd).1 ⟨resolved, hr, he⟩).1⟩
  | descriptions _ hi' | names _ hi' => exact absurd hi' hi

namespace IdsStoredIn

theorem storedIn (h : r.IdsStoredIn s) : r.StoredIn s := by
  refine (storedIn_targets h.valid h.descriptions).2 ⟨h.targets, ?_⟩
  simp [h.names]

theorem congr (h : r.IdsStoredIn s) (hs : s.SameMembership t) : r.IdsStoredIn t := by
  refine ⟨h.valid, h.descriptions, h.names, ?_⟩
  rw [idTarget?_congr hs, hs.exclusions]
  exact h.targets

theorem exclude (h : r.IdsStoredIn s) (ho : (Task.exclude other).run settings s = .ok next) :
    r.IdsStoredIn next := by
  have hmakes : (Change.exclude other).Makes settings s next := Change.makes_of_run ho
  cases hmakes with
  | exclude _ resolved =>
      refine ⟨h.valid, h.descriptions, h.names, fun id hid => idTarget?_stored fun e ht => ?_⟩
      exact SortedSet.mem_union.2 (.inl (h.targets id hid e ht))

theorem leave (h : r.IdsStoredIn s) (hn : node ∈ s.directory.toList) (hm : node.isMasterEligible = true) :
    r.IdsStoredIn (s.leave node.id) := by
  refine ⟨h.valid, h.descriptions, h.names, ?_⟩
  intro id hid
  rw [idTarget?, ClusterState.leave_directory, ClusterState.leave_exclusions, Directory.find?_erase]
  split
  case isTrue he =>
    -- while the node was there its id asked for it by id and name; that exclusion is found now
    subst he
    have hf : s.directory.find? node.id = some node := Directory.find?_eq_some.2 ⟨hn, rfl⟩
    have ht : idTarget? s node.id = some (.ofNode node) := by
      simp only [idTarget?, target?, hf, hm, if_true]
    exact target?_absent ⟨.ofNode node, h.targets node.id hid _ ht, decide_eq_true rfl⟩
  case isFalse => exact h.targets id hid

theorem attrition (h : r.IdsStoredIn s) (ht : s.Attrition t) : r.IdsStoredIn t := by
  induction ht with
  | start => exact h
  | published _ hs ih => exact ih.congr hs
  | excluded _ settings request hr ih => exact ih.exclude hr
  | @left t u node _ hn hm settings hr ih =>
      have hmakes : (Change.leave node.id).Makes settings t u := Change.makes_of_run hr
      cases hmakes
      exact ih.leave hn hm

end IdsStoredIn

/-- To make the request in this state is to be told that it is done: all that it asks for is stored, no
task is submitted, and the service stays as it is, whatever number of exclusions it allows. -/
structure IdleIn (r : ExclusionRequest) (s : ClusterState) : Prop where
  stored : r.StoredIn s
  answered : ∀ (sys : System) (client : Nat), sys.service.state = s →
    sys.clients[client]? = some (.ready (.exclude r)) →
    sys.step (.poll client) = { sys with
      clients := sys.clients.set client (.finished .done)
      notices := sys.notices ++ r.deprecation?.toList }

theorem StoredIn.idle (h : r.StoredIn s) : r.IdleIn s := by
  refine ⟨h, ?_⟩
  rintro sys client rfl hc
  obtain ⟨resolved, hr, he⟩ := h
  have hsub : resolved.subset sys.service.state.coordination.exclusions = true := SortedSet.subset_iff.2 he
  rw [System.step_poll hc]
  simp only [System.proceed, System.begin, System.beginExclusion, isValid_of_resolve hr, hr, hsub, Bool.not_true,
    Bool.false_eq_true, if_false, if_true]

theorem IdleIn.called {sys : System} (h : r.IdleIn sys.service.state) :
    (sys.step (.call (.exclude r))).step (.poll sys.clients.length) = { sys with
      clients := sys.clients ++ [.finished .done]
      notices := sys.notices ++ r.deprecation?.toList } := by
  rw [h.answered (sys.step (.call (.exclude r))) sys.clients.length rfl List.getElem?_concat_length]
  simp only [System.step, List.set_append_right _ _ (Nat.le_refl _), Nat.sub_self, List.set_cons_zero]

/-- A request whose task succeeded is idle when it is made again, and one by ids stays idle whatever is
excluded besides and whoever of the nodes that may vote leaves. -/
theorem readded_idle (h : (Task.exclude r).run settings s = .ok next) :
    (∀ t, next.SameMembership t → r.IdleIn t) ∧
      (r.ids ≠ [] → ∀ t, next.Attrition t → r.IdleIn t) := by
  have hs := storedIn_exclude h
  refine ⟨fun t ht => (hs.congr ht).idle, ?_⟩
  intro hi t ht
  exact ((hs.ids hi).attrition ht).storedIn.idle

theorem readded_after_leaving :
    let excluded := System.trio.run (Event.served 0 [.exclude (.ofIds ["n3"])])
    let sys := excluded.run (Event.served 1 [.update (.leave "n3"), .set Setting.maxVotingExclusionsKey "0"])
    sys.service.state.directory.contains "n3" = false ∧ sys.service.settings.maxVotingExclusions = 0 ∧
      (sys.step (.call (.exclude (.ofIds ["n3"])))).step (.poll sys.clients.length) =
        { sys with clients := sys.clients ++ [.finished .done] } := by
  intro excluded sys
  obtain ⟨next, hr, hp⟩ : ∃ next, (Task.exclude (.ofIds ["n3"])).run .initial (.bootstrap .trio) = .ok next ∧
      next.SameMembership excluded.service.state := ⟨_, rfl, rfl, rfl⟩
  have ha : excluded.service.state.Attrition sys.service.state := by
    refine System.attrition_run System.trio_keepsMembership ?_
    intro p hp
    cases List.mem_singleton.1 hp
    exact .inr ⟨.voter "n3" "node3", by decide, rfl, rfl⟩
  have hi := (readded_idle hr).2 (by decide) _ (.trans (.published .start hp) ha)
  have hd : (ofIds ["n3"]).deprecation?.toList = [] := rfl
  refine ⟨by decide, by decide, ?_⟩
  rw [hi.called, hd, List.append_nil]

end ExclusionRequest

end ClusterControl
