import ClusterControl.Proofs.Ordered.Sets
import ClusterControl.Voting.Request

/-!
What requests for exclusions ask for, and when all of it is stored already.
-/

namespace ClusterControl

namespace ExclusionRequest

/-- A valid request names nodes in one of three ways. -/
inductive Kind (r : ExclusionRequest) : Prop
  | descriptions (hd : r.descriptions ≠ []) (hi : r.ids = []) (hn : r.names = [])
  | ids (hd : r.descriptions = []) (hi : r.ids ≠ []) (hn : r.names = [])
  | names (hd : r.descriptions = []) (hi : r.ids = []) (hn : r.names ≠ [])

variable {r : ExclusionRequest} {s t : ClusterState} {resolved : ExclusionSet} {e : Exclusion}

theorem kind_of_isValid (hv : r.isValid = true) : r.Kind := by
  have hc : [r.descriptions, r.ids, r.names].countP (fun names => !names.isEmpty) = 1 := by
    simpa [isValid] using hv
  rw [List.countP_cons, List.countP_cons, List.countP_cons] at hc
  cases hd : r.descriptions <;> cases hi : r.ids <;> cases hn : r.names <;> simp [hd, hi, hn] at hc
  · exact .names hd hi (by simp [hn])
  · exact .ids hd (by simp [hi]) hn
  · exact .descriptions (by simp [hd]) hi hn

theorem isValid_of_resolve (h : r.resolve s = .ok resolved) : r.isValid = true := by
  unfold resolve at h
  split at h
  case isTrue => cases h
  case isFalse hv => simpa using hv

theorem resolve_descriptions (hd : r.descriptions ≠ []) (h : t.directory = s.directory) :
    r.resolve t = r.resolve s := by
  simp only [resolve, List.isEmpty_iff, hd, if_false, h]

theorem resolve_targets (hv : r.isValid = true) (hd : r.descriptions = []) :
    r.resolve s = .ok (.ofList (r.ids.filterMap (idTarget? s) ++ r.names.filterMap (nameTarget? s))) := by
  simp [resolve, hv, hd]

theorem mem_resolve_targets (hd : r.descriptions = []) (h : r.resolve s = .ok resolved) : e ∈ resolved ↔
    (∃ id ∈ r.ids, idTarget? s id = some e) ∨ ∃ name ∈ r.names, nameTarget? s name = some e := by
  rw [resolve_targets (isValid_of_resolve h) hd] at h
  cases h
  rw [SortedSet.mem_ofList, List.mem_append, List.mem_filterMap, List.mem_filterMap]

section Targets

variable {node : Option Node} {isKnown : Exclusion → Bool} {unknown : Exclusion} {stored more : ExclusionSet}

theorem target?_absent (h : ∃ e ∈ stored, isKnown e = true) :
    ∀ e ∈ target? none (stored.toList.find? isKnown) unknown, e ∈ stored := by
  obtain ⟨first, hf⟩ := Option.isSome_iff_exists.1 (List.find?_isSome.2 h)
  rw [hf]
  rintro _ ⟨⟩
  exact List.mem_of_find?_eq_some hf

/-- If what is asked for is stored, then what is asked for after that is stored. -/
theorem target?_stored (hu : isKnown unknown = true)
    (h : ∀ e ∈ target? node (stored.toList.find? isKnown) unknown, e ∈ more) :
    ∀ e ∈ target? node (more.toList.find? isKnown) unknown, e ∈ more := by
  cases node with
  | some node => exact h
  | none =>
      apply target?_absent
      refine ⟨_, h _ rfl, ?_⟩
      cases hf : stored.toList.find? isKnown with
      | none => exact hu
      | some known => exact List.find?_some hf

end Targets

/-- All that the request asks for in this state is stored there. -/
def StoredIn (r : ExclusionRequest) (s : ClusterState) : Prop :=
  ∃ resolved, r.resolve s = .ok resolved ∧ ∀ e ∈ resolved, e ∈ s.coordination.exclusions

theorem storedIn_targets (hv : r.isValid = true) (hd : r.descriptions = []) : r.StoredIn s ↔
    (∀ id ∈ r.ids, ∀ e ∈ idTarget? s id, e ∈ s.coordination.exclusions) ∧
      ∀ name ∈ r.names, ∀ e ∈ nameTarget? s name, e ∈ s.coordination.exclusions := by
  have hr := resolve_targets (s := s) hv hd
  constructor
  · rintro ⟨resolved, h, he⟩
    refine ⟨fun id hid e ht => he e ?_, fun name hname e ht => he e ?_⟩
    · exact (mem_resolve_targets hd h).2 (.inl ⟨id, hid, ht⟩)
    · exact (mem_resolve_targets hd h).2 (.inr ⟨name, hname, ht⟩)
  · rintro ⟨hids, hnames⟩
    refine ⟨_, hr, fun e he => ?_⟩
    rcases (mem_resolve_targets hd hr).1 he with ⟨id, hid, ht⟩ | ⟨name, hname, ht⟩
    · exact hids id hid e ht
    · exact hnames name hname e ht

end ExclusionRequest

end ClusterControl
