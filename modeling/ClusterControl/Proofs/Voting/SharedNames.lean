import ClusterControl.Proofs.Voting.NameExclusion
import ClusterControl.Proofs.Voting.Request

/-!
Exclusions by names that several nodes bear. Of the nodes of a name a request asks for the one whose id
comes first, and for none if that one may not vote; the others vote as before.
-/

namespace ClusterControl

namespace ExclusionRequest

variable {s : ClusterState} {request : ExclusionRequest} {resolved : ExclusionSet} {name : String}
  {e : Exclusion} {node : Node}

theorem mem_resolve_names (hb : request.names ≠ []) (h : request.resolve s = .ok resolved) :
    e ∈ resolved ↔ ∃ name ∈ request.names, nameTarget? s name = some e := by
  cases kind_of_isValid (isValid_of_resolve h) with
  | names hd hi =>
      rw [mem_resolve_targets hd h, hi]
      simp
  | descriptions _ _ hn | ids _ _ hn => exact absurd hn hb

/-- A name brings an id only of the first node that bears it, or with an exclusion that is stored. -/
theorem nameTarget?_identifies (h : nameTarget? s name = some e) (he : e.nodeId = some node.id)
    (hn : node ∈ s.directory.toList) :
    (node.name = name ∧ s.directory.FirstOfName node) ∨ e ∈ s.coordination.exclusions := by
  unfold nameTarget? target? at h
  cases hf : s.directory.findName? name with
  | some first =>
      rw [hf] at h
      obtain ⟨hm, hname, hleast⟩ := Directory.findName?_eq_some.1 hf
      simp only [Option.ite_none_right_eq_some] at h
      cases h.2
      cases Directory.eq_of_id_eq hm hn (Option.some.inj he)
      exact .inl ⟨hname, hleast⟩
  | none =>
      -- nobody bears the name, but an exclusion that is stored may have it with any id
      simp only [hf, Option.some.injEq] at h
      cases hk : s.coordination.exclusions.toList.find? (fun e => e.nodeName = some name) with
      | some known =>
          rw [hk, Option.getD_some] at h
          exact .inr (h ▸ List.mem_of_find?_eq_some hk)
      | none =>
          rw [hk, Option.getD_none] at h
          rw [← h] at he
          cases he

theorem nameTarget?_first (hn : node ∈ s.directory.toList) (hf : s.directory.FirstOfName node)
    (hm : node.isMasterEligible = true) : nameTarget? s node.name = some (.ofNode node) := by
  have hfind : s.directory.findName? node.name = some node := Directory.findName?_eq_some.2 ⟨hn, rfl, hf⟩
  simp only [nameTarget?, target?, hfind, hm, if_true]

end ExclusionRequest

namespace Directory

/-- Two nodes of one name and a third, all of which may vote. -/
def twins : Directory :=
  .ofNodes [.voter "n1" "twin", .voter "n2" "twin", .voter "n3" "node3"]

end Directory

namespace ClusterState

variable {settings : Settings} {s next : ClusterState} {request : ExclusionRequest} {node : Node}

theorem excluded_by_names (hb : request.names ≠ []) {resolved : ExclusionSet}
    (hr : request.resolve s = .ok resolved) (hn : node ∈ s.directory.toList) (hm : node.isMasterEligible = true) :
    (∃ e ∈ s.coordination.exclusions.union resolved, e.Identifies node) ↔
      node.name ∈ request.names ∧ s.directory.FirstOfName node ∨
        ∃ e ∈ s.coordination.exclusions, e.Identifies node := by
  constructor
  · rintro ⟨e, he, hid⟩
    rcases SortedSet.mem_union.1 he with he | he
    · exact .inr ⟨e, he, hid⟩
    · obtain ⟨name, hname, ht⟩ := (ExclusionRequest.mem_resolve_names hb hr).1 he
      rcases ExclusionRequest.nameTarget?_identifies ht hid hn with ⟨rfl, hf⟩ | he
      · exact .inl ⟨hname, hf⟩
      · exact .inr ⟨e, he, hid⟩
  · rintro (⟨hname, hf⟩ | ⟨e, he, hid⟩)
    · have ht := ExclusionRequest.nameTarget?_first hn hf hm
      have he := (ExclusionRequest.mem_resolve_names hb hr).2 ⟨node.name, hname, ht⟩
      exact ⟨.ofNode node, SortedSet.mem_union.2 (.inr he), rfl⟩
    · exact ⟨e, SortedSet.mem_union.2 (.inl he), hid⟩

/-- A request by names should keep every voter of these names out; of two that share a name one votes on. -/
theorem namesake_votes :
    ¬ ∀ settings s request next, ExclusionRequest.names request ≠ [] →
      (Task.exclude request).run settings s = .ok next →
      ∀ node ∈ next.directory.toList, node.isMasterEligible = true → node.name ∈ request.names →
        next.coordination.accepted.contains node.id = false := by
  intro h
  have hv := h .initial (.bootstrap .twins) (.ofNames ["twin"]) _ (by decide) rfl (.voter "n2" "twin")
    (by decide) rfl (by decide)
  revert hv
  decide

/-- After exclusions by names a voter of one of these names is out exactly if its id comes first of all
that bear the name, whether they may vote or not, or if an exclusion of its id was stored before. Where
no requested name is shared, every voter of these names is out. -/
theorem names_exclude_first (hb : request.names ≠ []) (h : (Task.exclude request).run settings s = .ok next) :
    next.directory = s.directory ∧
    (∀ node ∈ s.directory.toList, node.isMasterEligible = true → node.name ∈ request.names →
      (next.coordination.accepted.contains node.id = false ↔
        s.directory.FirstOfName node ∨ ∃ e ∈ s.coordination.exclusions, e.Identifies node)) ∧
    ((∀ node ∈ s.directory.toList, node.name ∈ request.names →
        ∀ other ∈ s.directory.toList, other.name = node.name → other = node) →
      ∀ node ∈ next.directory.toList, node.isMasterEligible = true → node.name ∈ request.names →
        next.coordination.accepted.contains node.id = false) := by
  have hmakes : (Change.exclude request).Makes settings s next := Change.makes_of_run h
  cases hmakes with
  | exclude _ resolved hr _ =>
      have hout : ∀ node ∈ s.directory.toList, node.isMasterEligible = true → node.name ∈ request.names →
          ((s.withExclusions (s.coordination.exclusions.union resolved)).coordination.accepted.contains node.id =
            false ↔ s.directory.FirstOfName node ∨ ∃ e ∈ s.coordination.exclusions, e.Identifies node) := by
        intro node hn hm hname
        have hx := excluded_by_names hb hr hn hm
        rw [← Bool.not_eq_true, (votesUnless_withExclusions hn _).votes]
        simp only [hm, hname, true_and, not_forall, not_not, exists_prop] at hx ⊢
        exact hx
      refine ⟨rfl, hout, ?_⟩
      intro hunique node hn hm hname
      refine (hout node hn hm hname).2 (.inl ?_)
      intro other ho he
      rw [hunique node hn hname other ho he]
      exact KeyOrder.irrefl _

/-- The first of two that share a name is out, the second votes. -/
theorem first_namesake_out :
    ∃ next, (Task.exclude (.ofNames ["twin"])).run .initial (.bootstrap .twins) = .ok next ∧
      next.coordination.accepted.contains "n1" = false ∧ next.coordination.accepted.contains "n2" = true := by
  refine ⟨_, rfl, ?_⟩
  obtain ⟨_, hout, _⟩ := @names_exclude_first .initial (.bootstrap .twins) _ (.ofNames ["twin"]) (by decide) rfl
  have hfirst := hout (.voter "n1" "twin") (by decide) rfl (by decide)
  have hsecond := hout (.voter "n2" "twin") (by decide) rfl (by decide)
  refine ⟨hfirst.2 (.inl ?_), ?_⟩
  · unfold Directory.FirstOfName
    decide
  · rw [← Bool.not_eq_false]
    intro hv
    rcases hsecond.1 hv with hf | ⟨e, he, _⟩
    · have hn := hf (.voter "n1" "twin") (by decide) rfl
      revert hn
      decide
    · exact SortedBy.not_mem_empty e he

end ClusterState

end ClusterControl
