import ClusterControl.Proofs.Ordered.Dictionary
import ClusterControl.Routing.Table
import Mathlib.Data.List.Nodup

/-!
The routing table seen through the copies of its shards. Where every copy stands under its own shard and
no number occurs twice in a shard, a copy is found by its shard and number, and an update replaces the one
copy that it names: it is one way to map the copies where they stand.
-/

namespace ClusterControl

theorem ShardCopy.sameCopy_iff {c d : ShardCopy} : c.sameCopy d = true ↔ c.shard = d.shard ∧ c.number = d.number := by
  simp [sameCopy]

theorem ShardCopy.sameCopy_comm {c d : ShardCopy} : c.sameCopy d = d.sameCopy c := by
  simp [sameCopy, eq_comm]

theorem ShardCopy.sameCopy_self (c : ShardCopy) : c.sameCopy c = true :=
  sameCopy_iff.2 ⟨rfl, rfl⟩

theorem ShardCopy.ne_of_not_sameCopy {c d : ShardCopy} (h : c.sameCopy d = false) : c ≠ d := by
  rintro rfl
  rw [sameCopy_self] at h
  cases h

theorem ShardCopy.sameCopy_congr {c d e : ShardCopy} (h : c.sameCopy d = true) : c.sameCopy e = d.sameCopy e := by
  obtain ⟨hshard, hnumber⟩ := sameCopy_iff.1 h
  simp only [sameCopy, hshard, hnumber]

theorem ShardCopy.sameCopy_congr_right {c d e : ShardCopy} (h : c.sameCopy d = true) : e.sameCopy c = e.sameCopy d := by
  rw [sameCopy_comm, sameCopy_congr h, sameCopy_comm]

namespace RoutingTable

variable {t : RoutingTable} {c d e : ShardCopy} {shard : ShardId} {number : Nat} {l : List ShardCopy}

section Replace

theorem map_number_replaceFirst : (replaceFirst c l).map ShardCopy.number = l.map ShardCopy.number := by
  induction l with
  | nil => rfl
  | cons d l ih =>
      rw [replaceFirst]
      split
      case isTrue h => simp [(ShardCopy.sameCopy_iff.1 h).2]
      case isFalse => simp [ih]

theorem mem_of_mem_replaceFirst (h : d ∈ replaceFirst c l) : d = c ∨ d ∈ l := by
  induction l with
  | nil => cases h
  | cons x l ih =>
      rw [replaceFirst] at h
      split at h
      case isTrue => exact (List.mem_cons.1 h).imp_right (List.mem_cons_of_mem x)
      case isFalse =>
        rcases List.mem_cons.1 h with rfl | h
        · exact .inr List.mem_cons_self
        · exact (ih h).imp_right (List.mem_cons_of_mem x)

theorem replaceFirst_of_absent (h : l.any (·.sameCopy c) = false) : replaceFirst c l = l := by
  induction l with
  | nil => rfl
  | cons d l ih =>
      rw [List.any_cons, Bool.or_eq_false_iff] at h
      simp only [replaceFirst, h.1, Bool.false_eq_true, if_false, ih h.2]

/-- The copy that is replaced, and all that stays around it. -/
theorem exists_replaceFirst (h : l.any (·.sameCopy c) = true) :
    ∃ before d after, l = before ++ d :: after ∧ d.sameCopy c = true ∧
      replaceFirst c l = before ++ c :: after := by
  induction l with
  | nil => cases h
  | cons x l ih =>
      rw [replaceFirst]
      split
      case isTrue hx => exact ⟨[], x, l, rfl, hx, rfl⟩
      case isFalse hx =>
        rw [List.any_cons, Bool.or_eq_true] at h
        obtain ⟨before, d, after, rfl, hd, hr⟩ := ih (h.resolve_left hx)
        exact ⟨x :: before, d, after, rfl, hd, congrArg (x :: ·) hr⟩

section Nodup

variable (hn : (l.map ShardCopy.number).Nodup) (hd : d ∈ l) (hs : d.sameCopy c = true)
include hn hd hs

theorem exists_replaceFirst_of_nodup :
    ∃ before after, l = before ++ d :: after ∧ replaceFirst c l = before ++ c :: after := by
  have ha : l.any (·.sameCopy c) = true := List.any_eq_true.2 ⟨d, hd, hs⟩
  obtain ⟨before, x, after, he, hx, hr⟩ := exists_replaceFirst ha
  have hm : x ∈ l := by simp [he]
  have hnumber : x.number = d.number :=
    (ShardCopy.sameCopy_iff.1 hx).2.trans (ShardCopy.sameCopy_iff.1 hs).2.symm
  obtain rfl := List.inj_on_of_nodup_map hn hm hd hnumber
  exact ⟨before, after, he, hr⟩

theorem countP_replaceFirst (p : ShardCopy → Bool) :
    (replaceFirst c l).countP p + (if p d then 1 else 0) = l.countP p + if p c then 1 else 0 := by
  obtain ⟨before, after, he, hr⟩ := exists_replaceFirst_of_nodup hn hd hs
  rw [hr, he]
  simp only [List.countP_append, List.countP_cons]
  omega

end Nodup

theorem mem_replaceFirst_of_ne (hd : d ∈ l) (hn : d.sameCopy c = false) : d ∈ replaceFirst c l := by
  cases ha : l.any (·.sameCopy c) with
  | false => rwa [replaceFirst_of_absent ha]
  | true =>
      obtain ⟨before, x, after, rfl, hx, hr⟩ := exists_replaceFirst ha
      rw [List.mem_append, List.mem_cons] at hd
      rw [hr, List.mem_append, List.mem_cons]
      rcases hd with hd | rfl | hd
      · exact .inl hd
      · rw [hx] at hn
        cases hn
      · exact .inr (.inr hd)

theorem find?_replaceFirst (hl : ∀ d ∈ l, d.shard = c.shard) :
    ((replaceFirst c l).find? fun d => d.number = number) =
      if number = c.number then (l.find? fun d => d.number = number).map fun _ => c
      else l.find? fun d => d.number = number := by
  induction l with
  | nil => simp [replaceFirst]
  | cons d l ih =>
      obtain ⟨hd, hl⟩ := List.forall_mem_cons.1 hl
      have ih := ih hl
      by_cases hn : d.number = c.number
      · rw [replaceFirst, if_pos (ShardCopy.sameCopy_iff.2 ⟨hd, hn⟩)]
        by_cases hk : number = c.number
        · simp [hk, hn]
        · simp [hk, hn, Ne.symm hk]
      · have hne : ¬ d.sameCopy c = true := fun h => hn (ShardCopy.sameCopy_iff.1 h).2
        rw [replaceFirst, if_neg hne, List.find?_cons, List.find?_cons]
        by_cases hk : d.number = number
        · have hkc : number ≠ c.number := hk ▸ hn
          simp [hk, hkc]
        · simpa [hk] using ih

theorem replaceFirst_eq_map (hn : (l.map ShardCopy.number).Nodup) :
    replaceFirst c l = l.map fun d => if d.sameCopy c then c else d := by
  induction l with
  | nil => rfl
  | cons d l ih =>
      rw [List.map_cons, List.nodup_cons] at hn
      rw [replaceFirst, List.map_cons]
      split
      case isTrue hd =>
        have hother : ∀ e ∈ l, (if e.sameCopy c then c else e) = e := by
          intro e he
          refine if_neg fun hs => hn.1 ?_
          rw [(ShardCopy.sameCopy_iff.1 hd).2, ← (ShardCopy.sameCopy_iff.1 hs).2]
          exact List.mem_map_of_mem he
        rw [List.map_congr_left hother, List.map_id']
      case isFalse => rw [ih hn.2]

end Replace

theorem ext_get? {u : RoutingTable} (h : ∀ shard, t.shards.get? shard = u.shards.get? shard) : t = u := by
  cases t
  cases u
  exact congrArg mk (Dictionary.ext_get? h)

@[simp] theorem get?_update :
    (t.update c).shards.get? shard =
      if shard = c.shard then (t.shards.get? shard).map (replaceFirst c) else t.shards.get? shard := by
  rw [update, update?]
  split
  case isTrue => simp
  case isFalse h =>
    rw [Option.getD_none]
    split
    case isTrue he =>
      subst he
      cases hg : t.shards.get? c.shard with
      | none => rfl
      | some l =>
          rw [copies, hg, Option.getD_some, Bool.not_eq_true] at h
          rw [Option.map_some, replaceFirst_of_absent h]
    case isFalse => rfl

theorem mem_shardIds : shard ∈ t.shardIds ↔ ∃ l, t.shards.get? shard = some l :=
  Dictionary.mem_keys_iff

theorem copies_update : (t.update c).copies shard =
    if shard = c.shard then replaceFirst c (t.copies shard) else t.copies shard := by
  rw [copies, get?_update]
  split
  case isTrue =>
    rw [copies]
    cases t.shards.get? shard <;> rfl
  case isFalse => rfl

theorem mem_toList : c ∈ t.toList ↔ ∃ shard, c ∈ t.copies shard := by
  simp only [toList, List.mem_flatten, Dictionary.mem_values_iff, copies]
  constructor
  · rintro ⟨l, ⟨shard, hg⟩, hm⟩
    exact ⟨shard, by rwa [hg]⟩
  · rintro ⟨shard, hm⟩
    cases hg : t.shards.get? shard with
    | none => simp [hg] at hm
    | some l => exact ⟨l, ⟨shard, hg⟩, by rwa [hg] at hm⟩

/-- Every copy stands under its own shard, and no number occurs twice in a shard. -/
structure WellFormed (t : RoutingTable) : Prop where
  own : ∀ shard, ∀ c ∈ t.copies shard, c.shard = shard
  distinct : ∀ shard, ((t.copies shard).map ShardCopy.number).Nodup

/-- The copy is in the table, with this value. -/
def Has (t : RoutingTable) (c : ShardCopy) : Prop :=
  t.find? c.shard c.number = some c

instance : Decidable (t.Has c) :=
  inferInstanceAs (Decidable (t.find? c.shard c.number = some c))

theorem Has.mem (h : t.Has c) : c ∈ t.copies c.shard :=
  List.mem_of_find?_eq_some h

theorem Has.get?_eq (h : t.Has c) : t.shards.get? c.shard = some (t.copies c.shard) := by
  have hm := h.mem
  rw [copies] at hm ⊢
  cases hg : t.shards.get? c.shard with
  | none => simp [hg] at hm
  | some => rfl

theorem Has.mem_toList (h : t.Has c) : c ∈ t.toList :=
  RoutingTable.mem_toList.2 ⟨c.shard, h.mem⟩

namespace WellFormed

variable (h : t.WellFormed)
include h

theorem eq_of_number (hc : c ∈ t.copies shard) (hd : d ∈ t.copies shard) (hn : c.number = d.number) : c = d :=
  List.inj_on_of_nodup_map (h.distinct shard) hc hd hn

theorem has_of_mem (hc : c ∈ t.copies shard) : t.Has c := by
  have hs := h.own shard c hc
  subst hs
  rw [Has, find?]
  cases hf : (t.copies c.shard).find? fun d => d.number = c.number with
  | none => simpa using List.find?_eq_none.1 hf c hc
  | some d =>
      have hn : d.number = c.number := by simpa using List.find?_some hf
      rw [h.eq_of_number (List.mem_of_find?_eq_some hf) hc hn]

theorem has_of_find? (hc : t.find? shard number = some c) : t.Has c :=
  h.has_of_mem (List.mem_of_find?_eq_some hc)

theorem mem_copies_iff : c ∈ t.copies shard ↔ t.Has c ∧ c.shard = shard := by
  constructor
  · intro hc
    exact ⟨h.has_of_mem hc, h.own shard c hc⟩
  · rintro ⟨hc, rfl⟩
    exact hc.mem

theorem has_of_mem_toList (hc : c ∈ t.toList) : t.Has c := by
  obtain ⟨shard, hm⟩ := mem_toList.1 hc
  exact h.has_of_mem hm

theorem update (c : ShardCopy) : (t.update c).WellFormed := by
  refine ⟨?_, ?_⟩
  · intro shard d hd
    rw [copies_update] at hd
    split at hd
    case isTrue hs =>
      rcases mem_of_mem_replaceFirst hd with rfl | hd
      · exact hs.symm
      · exact h.own shard d hd
    case isFalse => exact h.own shard d hd
  · intro shard
    rw [copies_update]
    split
    · rw [map_number_replaceFirst]
      exact h.distinct shard
    · exact h.distinct shard

/-- An update replaces the copy of its shard and number, if there is one. -/
theorem find?_update : (t.update c).find? shard number =
    if shard = c.shard ∧ number = c.number then (t.find? shard number).map fun _ => c
    else t.find? shard number := by
  rw [find?, copies_update]
  by_cases hs : shard = c.shard
  · subst hs
    rw [if_pos rfl, find?_replaceFirst (h.own _)]
    simp [find?]
  · simp [hs, find?]

end WellFormed

theorem Has.update_of_ne (h : t.WellFormed) (hd : t.Has d) (hn : d.sameCopy c = false) : (t.update c).Has d := by
  have hm : d ∈ (t.update c).copies d.shard := by
    rw [copies_update]
    split
    · exact mem_replaceFirst_of_ne hd.mem hn
    · exact hd.mem
  exact (h.update c).has_of_mem hm

theorem Has.update_iff (h : t.WellFormed) (hd : t.Has d) (hs : d.sameCopy c = true) :
    (t.update c).Has e ↔ e = c ∨ t.Has e ∧ e.sameCopy c = false := by
  obtain ⟨hshard, hnumber⟩ := ShardCopy.sameCopy_iff.1 hs
  have hf : t.find? c.shard c.number = some d := hshard ▸ hnumber ▸ hd
  rw [Has, h.find?_update]
  by_cases he : e.shard = c.shard ∧ e.number = c.number
  · simp [he, hf, ShardCopy.sameCopy, eq_comm]
  · have hsame : e.sameCopy c = false := by simpa [ShardCopy.sameCopy] using he
    have hne : e ≠ c := by
      rintro rfl
      exact he ⟨rfl, rfl⟩
    simp [he, hsame, hne, Has]

theorem Has.update_self (h : t.WellFormed) (hd : t.Has d) (hs : d.sameCopy c = true) : (t.update c).Has c :=
  (hd.update_iff h hs).2 (.inl rfl)

theorem Has.eq_of_sameCopy (hc : t.Has c) (hd : t.Has d) (hs : c.sameCopy d = true) : c = d := by
  obtain ⟨hshard, hnumber⟩ := ShardCopy.sameCopy_iff.1 hs
  rw [Has, hshard, hnumber, hd] at hc
  exact (Option.some.inj hc).symm

theorem WellFormed.pairwise_toList (h : t.WellFormed) : t.toList.Pairwise fun c d => c.sameCopy d = false := by
  have hown : ∀ l ∈ t.shards.values, ∃ shard, t.copies shard = l := by
    intro l hl
    obtain ⟨shard, hg⟩ := Dictionary.mem_values_iff.1 hl
    exact ⟨shard, by simp [copies, hg]⟩
  rw [toList, List.pairwise_flatten]
  refine ⟨?_, ?_⟩
  · intro l hl
    obtain ⟨shard, rfl⟩ := hown l hl
    refine (List.pairwise_map.1 (h.distinct shard)).imp ?_
    intro c d hn
    simp [ShardCopy.sameCopy, hn]
  · rw [Dictionary.values, List.pairwise_map]
    refine t.shards.sorted.imp_of_mem ?_
    rintro ⟨shard, l⟩ ⟨shard', l'⟩ hl hl' hb c hc d hd
    have hcs : c.shard = shard := h.own shard c (by rwa [copies, Dictionary.get?_eq_some_iff.2 hl])
    have hds : d.shard = shard' := h.own shard' d (by rwa [copies, Dictionary.get?_eq_some_iff.2 hl'])
    have hne : shard ≠ shard' := KeyOrder.ne_of_before hb
    simp [ShardCopy.sameCopy, hcs, hds, hne]

theorem WellFormed.nodup_toList (h : t.WellFormed) : t.toList.Nodup :=
  h.pairwise_toList.imp ShardCopy.ne_of_not_sameCopy

/-- The copies of a later table that this one does not have as they are there. -/
def renewed (t u : RoutingTable) : List ShardCopy :=
  u.toList.filter fun c => !decide (t.Has c)

theorem mem_renewed {u : RoutingTable} (hw : u.WellFormed) : c ∈ t.renewed u ↔ u.Has c ∧ ¬ t.Has c := by
  rw [renewed, List.mem_filter, Bool.not_eq_true', decide_eq_false_iff_not]
  exact and_congr_left fun _ => ⟨hw.has_of_mem_toList, Has.mem_toList⟩

section MapCopies

variable {f g : ShardCopy → ShardCopy}

/-- The table with every copy changed where it stands. -/
def mapCopies (f : ShardCopy → ShardCopy) (t : RoutingTable) : RoutingTable :=
  ⟨t.shards.modify (fun entry => (entry.1, entry.2.map f)) fun _ => rfl⟩

@[simp] theorem get?_mapCopies : (t.mapCopies f).shards.get? shard = (t.shards.get? shard).map (List.map f) := by
  refine Option.ext fun l => ?_
  rw [Dictionary.get?_eq_some_iff, mapCopies, SortedBy.modify, SortedBy.mem_iff, List.mem_map, Option.map_eq_some_iff]
  constructor
  · rintro ⟨⟨_, copies⟩, hm, he⟩
    cases he
    exact ⟨copies, Dictionary.get?_eq_some_iff.2 hm, rfl⟩
  · rintro ⟨copies, hg, rfl⟩
    exact ⟨(shard, copies), Dictionary.get?_eq_some_iff.1 hg, rfl⟩

@[simp] theorem copies_mapCopies : (t.mapCopies f).copies shard = (t.copies shard).map f := by
  rw [copies, copies, get?_mapCopies]
  cases t.shards.get? shard <;> rfl

theorem mapCopies_mapCopies : (t.mapCopies f).mapCopies g = t.mapCopies fun c => g (f c) := by
  refine ext_get? fun shard => ?_
  rw [get?_mapCopies, get?_mapCopies, get?_mapCopies]
  cases t.shards.get? shard <;> simp

theorem find?_mapCopies (hf : ∀ c : ShardCopy, c.sameCopy (f c) = true) :
    (t.mapCopies f).find? shard number = (t.find? shard number).map f := by
  have hnumber : ((fun c : ShardCopy => decide (c.number = number)) ∘ f) = fun c => decide (c.number = number) := by
    funext c
    exact congrArg (fun n => decide (n = number)) (ShardCopy.sameCopy_iff.1 (hf c)).2.symm
  rw [find?, copies_mapCopies, List.find?_map, hnumber, find?]

namespace WellFormed

variable (h : t.WellFormed)
include h

theorem mapCopies_congr (hf : ∀ c, t.Has c → f c = g c) : t.mapCopies f = t.mapCopies g := by
  refine ext_get? fun shard => ?_
  rw [get?_mapCopies, get?_mapCopies]
  cases hg : t.shards.get? shard with
  | none => rfl
  | some l =>
      refine congrArg some (List.map_congr_left fun c hc => ?_)
      have hm : c ∈ t.copies shard := by rwa [copies, hg]
      exact hf c (h.has_of_mem hm)

theorem mapCopies_id (hf : ∀ c, t.Has c → f c = c) : t.mapCopies f = t := by
  rw [h.mapCopies_congr (g := fun c => c) hf]
  refine ext_get? fun shard => ?_
  rw [get?_mapCopies]
  cases t.shards.get? shard <;> simp

theorem update_eq (c : ShardCopy) : t.update c = t.mapCopies fun d => if d.sameCopy c then c else d := by
  refine ext_get? fun shard => ?_
  rw [get?_update, get?_mapCopies]
  cases hg : t.shards.get? shard with
  | none => simp
  | some l =>
      have hl : t.copies shard = l := by rw [copies, hg, Option.getD_some]
      split
      case isTrue => rw [Option.map_some, Option.map_some, replaceFirst_eq_map (hl ▸ h.distinct shard)]
      case isFalse hs =>
        have hother : ∀ d ∈ l, (if d.sameCopy c then c else d) = d := by
          intro d hd
          refine if_neg fun hc => hs ?_
          rw [← (ShardCopy.sameCopy_iff.1 hc).1, h.own shard d (hl ▸ hd)]
        rw [Option.map_some, List.map_congr_left hother, List.map_id']

variable (hf : ∀ c : ShardCopy, c.sameCopy (f c) = true)
include hf

theorem mapCopies : (t.mapCopies f).WellFormed := by
  refine ⟨?_, ?_⟩
  · intro shard d hd
    rw [copies_mapCopies] at hd
    obtain ⟨c, hc, rfl⟩ := List.mem_map.1 hd
    rw [← (ShardCopy.sameCopy_iff.1 (hf c)).1, h.own shard c hc]
  · intro shard
    have hnumber : ShardCopy.number ∘ f = ShardCopy.number := by
      funext c
      exact (ShardCopy.sameCopy_iff.1 (hf c)).2.symm
    rw [copies_mapCopies, List.map_map, hnumber]
    exact h.distinct shard

theorem has_mapCopies : (t.mapCopies f).Has d ↔ ∃ c, t.Has c ∧ d = f c := by
  constructor
  · intro hd
    have hm := hd.mem
    rw [copies_mapCopies] at hm
    obtain ⟨c, hc, rfl⟩ := List.mem_map.1 hm
    exact ⟨c, h.has_of_mem hc, rfl⟩
  · rintro ⟨c, hc, rfl⟩
    have hm : f c ∈ (t.mapCopies f).copies c.shard := by
      rw [copies_mapCopies]
      exact List.mem_map_of_mem hc.mem
    exact (h.mapCopies hf).has_of_mem hm

end WellFormed

end MapCopies

end RoutingTable

end ClusterControl
