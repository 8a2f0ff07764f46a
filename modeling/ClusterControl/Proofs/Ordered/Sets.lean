import ClusterControl.Ordered.SortedBy

/-!
Members of sorted sets: what insertion, union, intersection and the sets of lists hold.
-/

namespace ClusterControl

variable {α κ : Type} [KeyOrder κ]

namespace SortedBy

variable {key : α → κ}

@[simp] theorem not_mem_empty (x : α) : x ∉ (empty : SortedBy key) := by
  intro h
  cases h

theorem isEmpty_filter {s : SortedBy key} {p : α → Bool} :
    (s.filter p).isEmpty = true ↔ ∀ x ∈ s, p x = false := by
  simp [isEmpty, filter, mem_iff]

/-- A search through sorted elements finds the one that comes before all others of its kind. -/
theorem find?_toList_eq_some {s : SortedBy key} {p : α → Bool} {x : α} : s.toList.find? p = some x ↔
    x ∈ s ∧ p x = true ∧ ∀ y ∈ s, p y = true → KeyOrder.before (key y) (key x) = false := by
  have hleast : ∀ {x}, s.toList.find? p = some x → ∀ y ∈ s, p y = true →
      KeyOrder.before (key y) (key x) = false := by
    intro x h y hy hp
    obtain ⟨_, sooner, later, hs, hn⟩ := List.find?_eq_some_iff_append.1 h
    have hsorted := s.sorted
    rw [hs, List.pairwise_append, List.pairwise_cons] at hsorted
    rw [mem_iff, hs, List.mem_append, List.mem_cons] at hy
    rcases hy with hy | rfl | hy
    · have hno := hn y hy
      simp [hp] at hno
    · exact KeyOrder.irrefl _
    · exact KeyOrder.not_before_of_before (hsorted.2.1.1 y hy)
  constructor
  · intro h
    exact ⟨List.mem_of_find?_eq_some h, List.find?_some h, hleast h⟩
  · rintro ⟨hx, hp, hl⟩
    obtain ⟨z, hz⟩ := Option.isSome_iff_exists.1 (List.find?_isSome.2 ⟨x, hx, hp⟩)
    have hm : z ∈ s := List.mem_of_find?_eq_some hz
    have he := KeyOrder.connex (hl z hm (List.find?_some hz)) (hleast hz x hx hp)
    rw [hz, eq_of_key_eq hm hx he]

end SortedBy

namespace SortedSet

theorem nodup_toList (s : SortedSet κ) : s.toList.Nodup :=
  s.sorted.imp KeyOrder.ne_of_before

theorem mem_insert {s : SortedSet κ} {x z : κ} : z ∈ s.insert x ↔ z = x ∨ z ∈ s := by
  rw [SortedBy.mem_insert]
  by_cases h : z = x <;> simp [h]

theorem mem_foldl_insert {l : List κ} {s : SortedSet κ} {z : κ} :
    z ∈ l.foldl SortedBy.insert s ↔ z ∈ s ∨ z ∈ l := by
  induction l generalizing s with
  | nil => simp
  | cons x xs ih =>
      rw [List.foldl_cons, ih, mem_insert, List.mem_cons, or_assoc, or_left_comm]

@[simp] theorem mem_ofList {l : List κ} {z : κ} : z ∈ (SortedBy.ofList l : SortedSet κ) ↔ z ∈ l := by
  rw [SortedBy.ofList, mem_foldl_insert]
  simp

@[simp] theorem mem_union {s t : SortedSet κ} {z : κ} : z ∈ s.union t ↔ z ∈ s ∨ z ∈ t :=
  mem_foldl_insert

variable [DecidableEq κ]

@[simp] theorem contains_iff_mem {s : SortedSet κ} {z : κ} : s.contains z = true ↔ z ∈ s := by
  rw [SortedBy.contains_iff]
  simp

theorem mem_inter {s t : SortedSet κ} {z : κ} : z ∈ s.inter t ↔ z ∈ s ∧ z ∈ t := by
  rw [inter, SortedBy.mem_filter, contains_iff_mem]

theorem subset_iff {s t : SortedSet κ} : s.subset t = true ↔ ∀ z ∈ s, z ∈ t := by
  simp only [subset, List.all_eq_true, contains_iff_mem, SortedBy.mem_iff]

end SortedSet

end ClusterControl
