import ClusterControl.Ordered.Key

/-!
Collections kept in the strict order of a key, so that each key occurs once and equal contents are
equal values. Sets and dictionaries are the two cases at hand.
-/

namespace ClusterControl

open KeyOrder (before)

variable {α κ : Type} [KeyOrder κ]

structure SortedBy (key : α → κ) where
  toList : List α
  sorted : toList.Pairwise fun x y => before (key x) (key y) = true

namespace SortedBy

variable {key : α → κ}

instance [DecidableEq α] : DecidableEq (SortedBy key) := fun s t =>
  decidable_of_iff (s.toList = t.toList) ⟨fun h => by cases s; cases t; simp_all, fun h => h ▸ rfl⟩

def empty : SortedBy key := ⟨[], .nil⟩

instance : Inhabited (SortedBy key) := ⟨empty⟩

/-- Puts `x` at its place; an element with the same key gives way. -/
def place (key : α → κ) (x : α) : List α → List α
  | [] => [x]
  | y :: ys =>
    if before (key x) (key y) then x :: y :: ys
    else if before (key y) (key x) then y :: place key x ys
    else x :: ys

theorem mem_of_mem_place {x z : α} {l : List α} (h : z ∈ place key x l) : z = x ∨ z ∈ l := by
  induction l with
  | nil => simpa [place] using h
  | cons y ys ih =>
    unfold place at h
    split at h
    · simpa using h
    · split at h <;> grind

theorem sorted_place (x : α) {l : List α}
    (h : l.Pairwise fun x y => before (key x) (key y) = true) :
    (place key x l).Pairwise fun x y => before (key x) (key y) = true := by
  induction l with
  | nil => simp [place]
  | cons y ys ih =>
    obtain ⟨hy, hys⟩ := List.pairwise_cons.1 h
    unfold place
    split
    case isTrue hxy =>
      refine List.pairwise_cons.2 ⟨fun z hz => ?_, h⟩
      rcases List.mem_cons.1 hz with rfl | hz
      · exact hxy
      · exact KeyOrder.trans hxy (hy z hz)
    case isFalse hxy =>
      split
      case isTrue hyx =>
        refine List.pairwise_cons.2 ⟨fun z hz => ?_, ih hys⟩
        rcases mem_of_mem_place hz with rfl | hz
        · exact hyx
        · exact hy z hz
      case isFalse hyx =>
        refine List.pairwise_cons.2 ⟨fun z hz => ?_, hys⟩
        rw [KeyOrder.connex (Bool.eq_false_iff.2 hxy) (Bool.eq_false_iff.2 hyx)]
        exact hy z hz

def insert (s : SortedBy key) (x : α) : SortedBy key :=
  ⟨place key x s.toList, sorted_place x s.sorted⟩

def filter (p : α → Bool) (s : SortedBy key) : SortedBy key :=
  ⟨s.toList.filter p, s.sorted.filter p⟩

/-- Of several elements with one key the last stays. -/
def ofList (xs : List α) : SortedBy key :=
  xs.foldl insert empty

/-- Adds the elements of `t`, which win over those of `s` with the same key. -/
def union (s t : SortedBy key) : SortedBy key :=
  t.toList.foldl insert s

def keys (s : SortedBy key) : List κ :=
  s.toList.map key

def size (s : SortedBy key) : Nat :=
  s.toList.length

def isEmpty (s : SortedBy key) : Bool :=
  s.toList.isEmpty

instance : Membership α (SortedBy key) := ⟨fun s x => x ∈ s.toList⟩

theorem mem_iff {x : α} {s : SortedBy key} : x ∈ s ↔ x ∈ s.toList := Iff.rfl

instance [DecidableEq α] (x : α) (s : SortedBy key) : Decidable (x ∈ s) :=
  inferInstanceAs (Decidable (x ∈ s.toList))

/-- Replaces the elements, each by one with the same key. -/
def modify (f : α → α) (keeps : ∀ x, key (f x) = key x) (s : SortedBy key) : SortedBy key :=
  ⟨s.toList.map f, by
    rw [List.pairwise_map]
    exact s.sorted.imp fun h => by rwa [keeps, keeps]⟩

variable [DecidableEq κ]

def find? (s : SortedBy key) (k : κ) : Option α :=
  s.toList.find? fun x => key x = k

def contains (s : SortedBy key) (k : κ) : Bool :=
  s.toList.any fun x => key x = k

def erase (s : SortedBy key) (k : κ) : SortedBy key :=
  s.filter fun x => key x ≠ k

theorem key_of_find? {s : SortedBy key} {k : κ} {x : α} (h : s.find? k = some x) : key x = k := by
  simpa using List.find?_some h

theorem mem_of_find? {s : SortedBy key} {k : κ} {x : α} (h : s.find? k = some x) : x ∈ s :=
  List.mem_of_find?_eq_some h

theorem contains_iff {s : SortedBy key} {k : κ} : s.contains k = true ↔ ∃ x ∈ s, key x = k := by
  simp [contains, mem_iff]

omit [DecidableEq κ] in
/-- In a sorted list two elements with one key are the same. -/
theorem eq_of_key_eq {s : SortedBy key} {x y : α} (hx : x ∈ s) (hy : y ∈ s)
    (h : key x = key y) : x = y := by
  have hs := s.sorted
  rw [mem_iff] at hx hy
  generalize s.toList = l at *
  induction l with
  | nil => simp at hx
  | cons z zs ih =>
    obtain ⟨hz, hzs⟩ := List.pairwise_cons.1 hs
    rcases List.mem_cons.1 hx with hxz | hx' <;> rcases List.mem_cons.1 hy with hyz | hy'
    · rw [hxz, hyz]
    · subst hxz
      exact absurd h (KeyOrder.ne_of_before (hz y hy'))
    · subst hyz
      exact absurd h.symm (KeyOrder.ne_of_before (hz x hx'))
    · exact ih hx' hy' hzs

theorem find?_eq_some_iff {s : SortedBy key} {k : κ} {x : α} :
    s.find? k = some x ↔ x ∈ s ∧ key x = k := by
  refine ⟨fun h => ⟨mem_of_find? h, key_of_find? h⟩, fun ⟨hx, hk⟩ => ?_⟩
  cases hf : s.find? k with
  | none =>
    have := List.find?_eq_none.1 hf x hx
    simp [hk] at this
  | some y =>
    rw [eq_of_key_eq (mem_of_find? hf) hx ((key_of_find? hf).trans hk.symm)]

omit [DecidableEq κ] in
theorem mem_insert {s : SortedBy key} {x z : α} :
    z ∈ s.insert x ↔ z = x ∨ z ∈ s ∧ key z ≠ key x := by
  have hs := s.sorted
  simp only [insert, mem_iff]
  generalize s.toList = l at *
  induction l with
  | nil => simp [place]
  | cons y ys ih =>
    obtain ⟨hy, hys⟩ := List.pairwise_cons.1 hs
    have ih := ih hys
    unfold place
    split
    case isTrue hxy =>
      have key_ne : ∀ w ∈ y :: ys, key w ≠ key x := by
        intro w hw
        refine (KeyOrder.ne_of_before (a := key x) (b := key w) ?_).symm
        rcases List.mem_cons.1 hw with rfl | hw
        · exact hxy
        · exact KeyOrder.trans hxy (hy w hw)
      rw [List.mem_cons]
      exact or_congr_right ⟨fun h => ⟨h, key_ne z h⟩, And.left⟩
    case isFalse hxy =>
      split
      case isTrue hyx =>
        have := KeyOrder.ne_of_before hyx
        simp only [List.mem_cons, ih]
        grind
      case isFalse hyx =>
        have he := KeyOrder.connex (Bool.eq_false_iff.2 hxy) (Bool.eq_false_iff.2 hyx)
        have key_ne : ∀ w ∈ ys, key w ≠ key x := fun w hw => by
          rw [he]
          exact (KeyOrder.ne_of_before (hy w hw)).symm
        simp only [List.mem_cons]
        grind

omit [DecidableEq κ] in
theorem mem_filter {p : α → Bool} {s : SortedBy key} {x : α} :
    x ∈ s.filter p ↔ x ∈ s ∧ p x = true :=
  List.mem_filter

theorem mem_erase {s : SortedBy key} {k : κ} {x : α} : x ∈ s.erase k ↔ x ∈ s ∧ key x ≠ k := by
  simp [erase, mem_filter]

omit [DecidableEq κ] in
theorem ext {s t : SortedBy key} (h : ∀ x, x ∈ s ↔ x ∈ t) : s = t := by
  obtain ⟨l, hl⟩ := s
  obtain ⟨m, hm⟩ := t
  simp only [mem_iff] at h
  congr
  induction l generalizing m with
  | nil => cases m with
    | nil => rfl
    | cons y ys => exact absurd ((h y).2 (by simp)) (by simp)
  | cons x xs ih => cases m with
    | nil => exact absurd ((h x).1 (by simp)) (by simp)
    | cons y ys =>
      obtain ⟨hx, hxs⟩ := List.pairwise_cons.1 hl
      obtain ⟨hy, hys⟩ := List.pairwise_cons.1 hm
      have hxy : x = y := by
        have h₁ := (h x).1 (by simp)
        have h₂ := (h y).2 (by simp)
        rcases List.mem_cons.1 h₁ with h₁ | h₁
        · exact h₁
        rcases List.mem_cons.1 h₂ with h₂ | h₂
        · exact h₂.symm
        have := KeyOrder.not_before_of_before (hx y h₂)
        simp [hy x h₁] at this
      subst hxy
      have : xs = ys := ih hxs ys hys fun z => by
        have hz := h z
        constructor
        · intro hzx
          rcases List.mem_cons.1 (hz.1 (by simp [hzx])) with rfl | hzy
          · exact absurd rfl (KeyOrder.ne_of_before (hx z hzx))
          · exact hzy
        · intro hzy
          rcases List.mem_cons.1 (hz.2 (by simp [hzy])) with rfl | hzx
          · exact absurd rfl (KeyOrder.ne_of_before (hy z hzy))
          · exact hzx
      rw [this]

end SortedBy

/-- A set of keys. -/
abbrev SortedSet (κ : Type) [KeyOrder κ] := SortedBy fun k : κ => k

namespace SortedSet

variable [DecidableEq κ]

def subset (s t : SortedSet κ) : Bool :=
  s.toList.all t.contains

def inter (s t : SortedSet κ) : SortedSet κ :=
  s.filter t.contains

end SortedSet

abbrev Dictionary (κ β : Type) [KeyOrder κ] := SortedBy fun entry : κ × β => entry.1

namespace Dictionary

variable {β : Type}

def put (d : Dictionary κ β) (k : κ) (v : β) : Dictionary κ β :=
  d.insert (k, v)

def values (d : Dictionary κ β) : List β :=
  d.toList.map Prod.snd

variable [DecidableEq κ]

def get? (d : Dictionary κ β) (k : κ) : Option β :=
  (d.find? k).map Prod.snd

/-- Changes the value of `k`, if it has one. -/
def adjust (d : Dictionary κ β) (k : κ) (f : β → β) : Dictionary κ β :=
  d.modify (fun entry => if entry.1 = k then (entry.1, f entry.2) else entry)
    fun entry => by split <;> rfl

end Dictionary

end ClusterControl
