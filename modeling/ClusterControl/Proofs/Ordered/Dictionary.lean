import ClusterControl.Proofs.Ordered.Sets

/-!
What dictionaries hold: a dictionary is seen through the values of its keys.
-/

namespace ClusterControl

namespace Dictionary

variable {κ β : Type} [KeyOrder κ] [DecidableEq κ] {d : Dictionary κ β} {k l : κ} {v : β}

theorem get?_eq_some_iff : d.get? k = some v ↔ (k, v) ∈ d := by
  rw [get?, Option.map_eq_some_iff]
  constructor
  · rintro ⟨⟨_, _⟩, h, rfl⟩
    obtain ⟨hm, rfl⟩ := SortedBy.find?_eq_some_iff.1 h
    exact hm
  · intro h
    exact ⟨(k, v), SortedBy.find?_eq_some_iff.2 ⟨h, rfl⟩, rfl⟩

theorem ext_get? {e : Dictionary κ β} (h : ∀ k, d.get? k = e.get? k) : d = e := by
  refine SortedBy.ext fun entry => ?_
  rw [← get?_eq_some_iff (k := entry.1) (v := entry.2), h, get?_eq_some_iff]

theorem mem_keys_iff : k ∈ d.keys ↔ ∃ v, d.get? k = some v := by
  simp only [SortedBy.keys, List.mem_map, get?_eq_some_iff, SortedBy.mem_iff]
  constructor
  · rintro ⟨⟨_, v⟩, h, rfl⟩
    exact ⟨v, h⟩
  · rintro ⟨v, h⟩
    exact ⟨(k, v), h, rfl⟩

theorem mem_values_iff : v ∈ d.values ↔ ∃ k, d.get? k = some v := by
  simp only [values, List.mem_map, get?_eq_some_iff, SortedBy.mem_iff]
  constructor
  · rintro ⟨⟨k, _⟩, h, rfl⟩
    exact ⟨k, h⟩
  · rintro ⟨k, h⟩
    exact ⟨(k, v), h, rfl⟩

@[simp] theorem get?_put : (d.put k v).get? l = if l = k then some v else d.get? l := by
  refine Option.ext fun w => ?_
  rw [get?_eq_some_iff, put, SortedBy.mem_insert]
  split
  case isTrue h =>
    subst h
    simp [eq_comm]
  case isFalse h =>
    rw [get?_eq_some_iff]
    simp [h]

@[simp] theorem get?_adjust {f : β → β} :
    (d.adjust k f).get? l = if l = k then (d.get? l).map f else d.get? l := by
  refine Option.ext fun w => ?_
  rw [get?_eq_some_iff, adjust, SortedBy.modify, SortedBy.mem_iff, List.mem_map]
  split
  case isTrue h =>
    subst h
    rw [Option.map_eq_some_iff]
    simp only [get?_eq_some_iff]
    constructor
    · rintro ⟨⟨l', v⟩, hm, he⟩
      split at he
      case isTrue h =>
        cases he
        cases h
        exact ⟨v, hm, rfl⟩
      case isFalse h =>
        cases he
        exact absurd rfl h
    · rintro ⟨v, hm, rfl⟩
      exact ⟨(l, v), hm, by simp⟩
  case isFalse h =>
    rw [get?_eq_some_iff]
    constructor
    · rintro ⟨⟨l', v⟩, hm, he⟩
      split at he
      case isTrue hk =>
        cases he
        exact absurd hk h
      case isFalse =>
        cases he
        exact hm
    · intro hm
      exact ⟨(l, w), hm, by simp [h]⟩

theorem get?_filter {p : κ → Bool} :
    Dictionary.get? (d.filter fun entry => p entry.1) k = if p k then d.get? k else none := by
  refine Option.ext fun w => ?_
  rw [get?_eq_some_iff, SortedBy.mem_filter]
  split
  case isTrue h =>
    rw [get?_eq_some_iff]
    simp [h]
  case isFalse h => simp [h]

theorem get?_erase : Dictionary.get? (d.erase k) l = if l = k then none else d.get? l := by
  rw [SortedBy.erase, get?_filter (p := fun l => decide (l ≠ k))]
  by_cases h : l = k <;> simp [h]

/-- The entry of a key stands among others, which an adjustment of its value leaves alone. -/
theorem exists_toList (h : d.get? k = some v) :
    ∃ before after, d.toList = before ++ (k, v) :: after ∧
      ∀ f : β → β, (d.adjust k f).toList = before ++ (k, f v) :: after := by
  obtain ⟨before, after, hsplit⟩ := List.append_of_mem (get?_eq_some_iff.1 h)
  have hsorted := d.sorted
  rw [hsplit, List.pairwise_append, List.pairwise_cons] at hsorted
  obtain ⟨_, ⟨hlater, _⟩, hearlier⟩ := hsorted
  refine ⟨before, after, hsplit, fun f => ?_⟩
  have hstays : ∀ l : List (κ × β), (∀ entry ∈ l, entry.1 ≠ k) →
      l.map (fun entry => if entry.1 = k then (entry.1, f entry.2) else entry) = l := by
    intro l hl
    refine (List.map_congr_left fun entry he => ?_).trans (List.map_id' l)
    rw [if_neg (hl entry he)]
  have hleft := hstays before fun entry he => KeyOrder.ne_of_before (hearlier entry he _ List.mem_cons_self)
  have hright := hstays after fun entry he => (KeyOrder.ne_of_before (hlater entry he)).symm
  have hlist : (d.adjust k f).toList =
      d.toList.map fun entry => if entry.1 = k then (entry.1, f entry.2) else entry := rfl
  rw [hlist, hsplit, List.map_append, List.map_cons, hleft, hright, if_pos rfl]

end Dictionary

end ClusterControl
