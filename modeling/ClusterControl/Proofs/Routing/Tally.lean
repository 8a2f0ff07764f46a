import ClusterControl.Proofs.Routing.Lifecycle
import Mathlib.Data.List.Perm.Subperm

/-!
Counting copies. An update takes one copy out of a count and puts one in, so what the table counts grows by one
at most, and a count that grows only below a limit stays within it. Where copies only give up nodes, no count of
copies on a node grows.
-/

namespace ClusterControl

namespace RoutingTable

variable {t u : RoutingTable} {c d : ShardCopy} {shard : ShardId} {p : ShardCopy → Bool} {limit : Nat}

/-- The copies of a shard stand together in the table, and an update of one of them leaves all others alone. -/
theorem exists_toList (t : RoutingTable) (shard : ShardId) :
    ∃ before after, t.toList = before ++ t.copies shard ++ after ∧
      ∀ d : ShardCopy, d.shard = shard → (t.update d).toList = before ++ replaceFirst d (t.copies shard) ++ after := by
  cases hg : t.shards.get? shard with
  | none =>
      have hcopies : t.copies shard = [] := by simp [copies, hg]
      refine ⟨t.toList, [], by simp [hcopies], ?_⟩
      rintro d rfl
      have hnone : t.update d = t := by simp [update, update?, hcopies]
      rw [hnone, hcopies, replaceFirst, List.append_nil, List.append_nil]
  | some l =>
      have hcopies : t.copies shard = l := by simp [copies, hg]
      obtain ⟨before, after, hsplit, hadjust⟩ := Dictionary.exists_toList hg
      refine ⟨(before.map Prod.snd).flatten, (after.map Prod.snd).flatten, ?_, ?_⟩
      · simp [toList, Dictionary.values, hsplit, hcopies]
      · rintro d rfl
        rw [update, update?]
        split
        case isTrue => simp [toList, Dictionary.values, hadjust, hcopies]
        case isFalse h =>
          rw [Bool.not_eq_true] at h
          rw [Option.getD_none, replaceFirst_of_absent h]
          simp [toList, Dictionary.values, hsplit, hcopies]

section Update

variable (hw : t.WellFormed) (hc : t.Has c) (hs : c.sameCopy d = true)
include hw hc hs

theorem countP_copies_update (p : ShardCopy → Bool) :
    ((t.update d).copies c.shard).countP p + (if p c then 1 else 0) =
      (t.copies c.shard).countP p + if p d then 1 else 0 := by
  rw [copies_update, if_pos (ShardCopy.sameCopy_iff.1 hs).1]
  exact countP_replaceFirst (hw.distinct c.shard) hc.mem hs p

theorem countP_update (p : ShardCopy → Bool) :
    (t.update d).toList.countP p + (if p c then 1 else 0) = t.toList.countP p + if p d then 1 else 0 := by
  obtain ⟨before, after, ht, hu⟩ := exists_toList t c.shard
  have hcount := countP_replaceFirst (hw.distinct c.shard) hc.mem hs p
  rw [ht, hu d (ShardCopy.sameCopy_iff.1 hs).1.symm]
  simp only [List.countP_append]
  omega

/-- A count that grows only below a limit stays within the limit, or where it was. -/
theorem countP_update_le (hp : p d = true → p c = true ∨ t.toList.countP p < limit) :
    (t.update d).toList.countP p ≤ max (t.toList.countP p) limit := by
  have hcount := countP_update hw hc hs p
  by_cases hd : p d = true
  · rcases hp hd with hpc | hlt
    · rw [if_pos hd, if_pos hpc] at hcount
      omega
    · rw [if_pos hd] at hcount
      omega
  · rw [if_neg hd] at hcount
    omega

end Update

/-- What is counted of copies on nodes is no more when copies only give up nodes. -/
theorem countP_le_of_yields (hy : t.Yields u) (hw : u.WellFormed) (hv : ∀ d : ShardCopy, d.Vacant → p d = false)
    (hp : ∀ c d : ShardCopy, c.Yields d → p d = true → p c = true) : u.toList.countP p ≤ t.toList.countP p := by
  -- A copy that counts afterwards is found before by its shard and number, and counted there too.
  let label (c : ShardCopy) := (c.shard, c.number)
  have hnodup : ((u.toList.filter p).map label).Nodup := by
    refine List.pairwise_map.2 ((hw.pairwise_toList.filter p).imp ?_)
    intro c d hn he
    obtain ⟨hshard, hnumber⟩ := Prod.ext_iff.1 he
    rw [ShardCopy.sameCopy_iff.2 ⟨hshard, hnumber⟩] at hn
    cases hn
  have hsubset : (u.toList.filter p).map label ⊆ (t.toList.filter p).map label := by
    intro key hkey
    obtain ⟨d, hd, rfl⟩ := List.mem_map.1 hkey
    obtain ⟨hd, hpd⟩ := List.mem_filter.1 hd
    rcases hy d (hw.has_of_mem_toList hd) with hnew | ⟨c, hc, hcd⟩
    · rw [hv d hnew] at hpd
      cases hpd
    · obtain ⟨hshard, hnumber⟩ := ShardCopy.sameCopy_iff.1 hcd.same
      refine List.mem_map.2 ⟨c, List.mem_filter.2 ⟨hc.mem_toList, hp c d hcd hpd⟩, ?_⟩
      exact Prod.ext hshard hnumber
  have hlength := (hnodup.subperm hsubset).length_le
  rwa [List.length_map, List.length_map, ← List.countP_eq_length_filter, ← List.countP_eq_length_filter] at hlength

/-- Where a copy stays in its role, and on its node if it is active, the primaries are found as before. -/
theorem primaryNode?_update (hw : t.WellFormed) (hc : t.Has c) (hl : c.Lasts d)
    (hn : c.isActive = true → d.node = c.node) (shard : ShardId) :
    (t.update d).primaryNode? shard = t.primaryNode? shard := by
  obtain ⟨hshard, _⟩ := ShardCopy.sameCopy_iff.1 hl.same
  rw [primaryNode?, primaryNode?, activePrimary?, activePrimary?, primary?, primary?, copies_update]
  split
  case isFalse => rfl
  case isTrue h =>
    subst h
    obtain ⟨before, after, he, hr⟩ :=
      exists_replaceFirst_of_nodup (hw.distinct d.shard) (hshard ▸ hc.mem) hl.same
    rw [hr, he, List.find?_append, List.find?_append, List.find?_cons, List.find?_cons, hl.primary]
    cases before.find? ShardCopy.primary with
    | some => rfl
    | none =>
        cases c.primary with
        | false => rfl
        | true =>
            cases hactive : c.isActive with
            | false => simp [Option.filter, hl.active, hactive]
            | true => simp [Option.filter, hl.active, hactive, hn hactive]

end RoutingTable

end ClusterControl
