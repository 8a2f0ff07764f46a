import ClusterControl.Proofs.Routing.Departure

/-!
The staff of a shard: its copies by number, one of them the primary. A table follows a plan if it has the
shards that the plan names, each with the planned replicas; what happens to a copy keeps to the plan, and
so does a promotion, where one copy takes the lead from another.
-/

namespace ClusterControl

/-- One copy for each number up to that of the replicas, and one of the copies is the primary. -/
structure Staffed (shard : ShardId) (replicas : Nat) (l : List ShardCopy) : Prop where
  own : ∀ c ∈ l, c.shard = shard
  numbers : l.map ShardCopy.number = List.range (replicas + 1)
  primary : l.countP ShardCopy.primary = 1

/-- How many replicas each shard has, where there is such a shard. -/
abbrev StaffPlan := ShardId → Option Nat

/-- The replicas of the shards of these indices. -/
def IndexTable.plan (indices : IndexTable) : StaffPlan := fun shard =>
  (indices.find? shard.index).bind fun index => if shard.number < index.shards then some index.replicas else none

namespace Staffed

open RoutingTable

variable {shard : ShardId} {replicas : Nat} {l : List ShardCopy} {c d : ShardCopy}

theorem nodup (h : Staffed shard replicas l) : (l.map ShardCopy.number).Nodup := by
  rw [h.numbers]
  exact List.nodup_range

theorem filter_primary (h : Staffed shard replicas l) (hc : c ∈ l) (hp : c.primary = true) :
    l.filter ShardCopy.primary = [c] := by
  have hlength : (l.filter ShardCopy.primary).length = 1 := by rw [← List.countP_eq_length_filter, h.primary]
  obtain ⟨p, hfilter⟩ := List.length_eq_one_iff.1 hlength
  have hm : c ∈ l.filter ShardCopy.primary := List.mem_filter.2 ⟨hc, hp⟩
  rw [hfilter, List.mem_singleton] at hm
  rw [hfilter, hm]

theorem own_replaceFirst (h : Staffed shard replicas l) (hc : c.shard = shard) :
    ∀ x ∈ replaceFirst c l, x.shard = shard := by
  intro x hx
  rcases mem_of_mem_replaceFirst hx with rfl | hx
  · exact hc
  · exact h.own x hx

theorem replace (h : Staffed shard replicas l) (hd : d ∈ l) (hs : d.sameCopy c = true)
    (hp : c.primary = d.primary) : Staffed shard replicas (replaceFirst c l) := by
  refine ⟨h.own_replaceFirst ?_, by rw [map_number_replaceFirst, h.numbers], ?_⟩
  · rw [← (ShardCopy.sameCopy_iff.1 hs).1, h.own d hd]
  · have hcount := countP_replaceFirst h.nodup hd hs ShardCopy.primary
    rw [hp] at hcount
    have := h.primary
    omega

/-- A replica takes the lead, and the copy that had it becomes a replica. -/
theorem promote {heir lost : ShardCopy} (h : Staffed shard replicas l) (hh : heir ∈ l)
    (hn : heir.primary = false) (hd : d ∈ l) (hl : d.primary = true) (hs : d.sameCopy lost = true) :
    Staffed shard replicas (replaceFirst lost.demote (replaceFirst heir.promote l)) := by
  have hheir : heir.sameCopy heir.promote = true := heir.sameCopy_self
  have hdemote : d.sameCopy lost.demote = true := hs
  have hne : d.sameCopy heir.promote = false := by
    by_contra he
    rw [Bool.not_eq_false] at he
    have : d = heir := List.inj_on_of_nodup_map h.nodup hd hh (ShardCopy.sameCopy_iff.1 he).2
    rw [this, hn] at hl
    cases hl
  have hd' : d ∈ replaceFirst heir.promote l := mem_replaceFirst_of_ne hd hne
  have hnumbers : ((replaceFirst heir.promote l).map ShardCopy.number).Nodup := by
    rw [map_number_replaceFirst]
    exact h.nodup
  refine ⟨?_, by rw [map_number_replaceFirst, map_number_replaceFirst, h.numbers], ?_⟩
  · intro x hx
    rcases mem_of_mem_replaceFirst hx with rfl | hx
    · exact (ShardCopy.sameCopy_iff.1 hs).1.symm.trans (h.own d hd)
    · exact h.own_replaceFirst (c := heir.promote) (h.own heir hh) x hx
  · have hfirst := countP_replaceFirst h.nodup hh hheir ShardCopy.primary
    have hsecond := countP_replaceFirst hnumbers hd' hdemote ShardCopy.primary
    have hleads : heir.promote.primary = true := rfl
    have hfollows : lost.demote.primary = false := rfl
    have := h.primary
    simp only [hn, hl, hleads, hfollows, Bool.false_eq_true, if_true, if_false] at hfirst hsecond
    omega

theorem fresh (shard : ShardId) (replicas : Nat) (source : RecoverySource) :
    Staffed shard replicas (freshCopies shard replicas source) := by
  refine ⟨?_, ?_, ?_⟩
  · simp [freshCopies, ShardCopy.fresh]
  · simp [freshCopies, ShardCopy.fresh, List.range_succ_eq_map, Function.comp_def]
  · simp [freshCopies, ShardCopy.fresh, List.countP_eq_zero]

end Staffed

namespace RoutingTable

variable {t : RoutingTable} {plan : StaffPlan} {c d : ShardCopy} {shard : ShardId} {index : Index}

/-- The table has the shard if it is planned, and then with its staff. -/
def FollowsAt (t : RoutingTable) (plan : StaffPlan) (shard : ShardId) : Prop :=
  Option.Rel (Staffed shard) (plan shard) (t.shards.get? shard)

def Follows (t : RoutingTable) (plan : StaffPlan) : Prop :=
  ∀ shard, t.FollowsAt plan shard

theorem followsAt_of_none (hp : plan shard = none) (hg : t.shards.get? shard = none) : t.FollowsAt plan shard := by
  rw [FollowsAt, hp, hg]
  exact .none

theorem FollowsAt.staffed {l : List ShardCopy} (h : t.FollowsAt plan shard) (hg : t.shards.get? shard = some l) :
    ∃ replicas, plan shard = some replicas ∧ Staffed shard replicas l := by
  rw [FollowsAt, hg] at h
  generalize plan shard = planned at h
  cases h with
  | some hs => exact ⟨_, rfl, hs⟩

theorem FollowsAt.isSome (h : t.FollowsAt plan shard) :
    (∃ replicas, plan shard = some replicas) ↔ ∃ l, t.shards.get? shard = some l := by
  rw [FollowsAt] at h
  generalize plan shard = planned at h
  generalize t.shards.get? shard = stored at h
  cases h with
  | some => simp
  | none => simp

theorem FollowsAt.congr {t' : RoutingTable} {plan' : StaffPlan} (h : t.FollowsAt plan shard)
    (hp : plan' shard = plan shard) (hg : t'.shards.get? shard = t.shards.get? shard) : t'.FollowsAt plan' shard := by
  rwa [FollowsAt, hp, hg]

namespace Follows

variable (h : t.Follows plan)
include h

theorem staffed {l : List ShardCopy} (hg : t.shards.get? shard = some l) :
    ∃ replicas, plan shard = some replicas ∧ Staffed shard replicas l :=
  (h shard).staffed hg

theorem wellFormed : t.WellFormed := by
  have hstaff : ∀ shard, t.copies shard = [] ∨ ∃ replicas, Staffed shard replicas (t.copies shard) := by
    intro shard
    rw [copies]
    cases hg : t.shards.get? shard with
    | none => exact .inl rfl
    | some l =>
        obtain ⟨replicas, _, hs⟩ := h.staffed hg
        exact .inr ⟨replicas, hs⟩
  refine ⟨?_, ?_⟩
  · intro shard
    rcases hstaff shard with he | ⟨replicas, hs⟩
    · simp [he]
    · exact hs.own
  · intro shard
    rcases hstaff shard with he | ⟨replicas, hs⟩
    · simp [he]
    · exact hs.nodup

/-- The plan says which copies there are. -/
theorem exists_has_iff {number : Nat} : (∃ c, t.Has c ∧ c.shard = shard ∧ c.number = number) ↔
    ∃ replicas, plan shard = some replicas ∧ number ≤ replicas := by
  constructor
  · rintro ⟨c, hc, rfl, rfl⟩
    obtain ⟨replicas, hp, hs⟩ := h.staffed hc.get?_eq
    have hn : c.number ∈ (t.copies c.shard).map ShardCopy.number := List.mem_map_of_mem hc.mem
    rw [hs.numbers, List.mem_range] at hn
    exact ⟨replicas, hp, Nat.le_of_lt_succ hn⟩
  · rintro ⟨replicas, hp, hn⟩
    obtain ⟨l, hg⟩ := (h shard).isSome.1 ⟨replicas, hp⟩
    obtain ⟨replicas', hp', hs⟩ := h.staffed hg
    cases hp.symm.trans hp'
    have hm : number ∈ l.map ShardCopy.number := by
      rw [hs.numbers, List.mem_range]
      exact Nat.lt_succ_of_le hn
    obtain ⟨c, hc, rfl⟩ := List.mem_map.1 hm
    have hcopies : c ∈ t.copies shard := by rwa [copies, hg]
    exact ⟨c, h.wellFormed.has_of_mem hcopies, h.wellFormed.own shard c hcopies, rfl⟩

/-- Where the staff of one shard is replaced by a staff of the same size, the plan is still followed. -/
theorem of_replaced {t' : RoutingTable} {f : List ShardCopy → List ShardCopy} (shard : ShardId)
    (hg : ∀ other, t'.shards.get? other =
      if other = shard then (t.shards.get? other).map f else t.shards.get? other)
    (hf : ∀ replicas, Staffed shard replicas (t.copies shard) → Staffed shard replicas (f (t.copies shard))) :
    t'.Follows plan := by
  intro other
  by_cases he : other = shard
  · subst he
    have hg' := hg other
    rw [if_pos rfl] at hg'
    cases ho : t.shards.get? other with
    | none =>
        rw [ho, Option.map_none] at hg'
        exact (h other).congr rfl (hg'.trans ho.symm)
    | some l =>
        obtain ⟨replicas, hp, hs⟩ := h.staffed ho
        have hcopies : t.copies other = l := by rw [copies, ho, Option.getD_some]
        rw [hcopies] at hf
        rw [FollowsAt, hg', ho, hp, Option.map_some]
        exact .some (hf replicas hs)
  · exact (h other).congr rfl ((hg other).trans (if_neg he))

theorem update (hd : t.Has d) (hs : d.sameCopy c = true) (hp : c.primary = d.primary) :
    (t.update c).Follows plan := by
  refine h.of_replaced c.shard (fun _ => get?_update) ?_
  intro replicas hstaff
  exact hstaff.replace ((ShardCopy.sameCopy_iff.1 hs).1 ▸ hd.mem) hs hp

/-- A loss leaves as many copies and one primary: where the primary hands over the lead, it does so to one. -/
theorem loss {info : UnassignedInfo} {directory : Directory} {u : RoutingTable} (hl : Loss directory t c info u) :
    u.Follows plan := by
  cases hl with
  | single hc | last hc => exact h.update hc c.sameCopy_self rfl
  | @succeeded heir hc hp ha hh hs hi =>
      have hn : heir.primary = false := by
        simp only [ShardCopy.isHeir, Bool.and_eq_true, Bool.not_eq_true'] at hi
        exact hi.1.1
      have hself : c.sameCopy (c.unassign info) = true := c.sameCopy_self
      refine h.of_replaced c.shard
        (f := fun l => replaceFirst (c.unassign info).demote (replaceFirst heir.promote l)) ?_ ?_
      · intro other
        rw [get?_update, get?_update]
        simp only [ShardCopy.demote, ShardCopy.unassign, ShardCopy.promote, hs]
        by_cases he : other = c.shard
        · simp [he, Function.comp_def]
        · simp [he]
      · intro replicas hstaff
        exact hstaff.promote (hs ▸ hh.mem) hn hc.mem hp hself

end Follows

@[simp] theorem get?_removeIndex {name : String} : (t.removeIndex name).shards.get? shard =
    if shard.index = name then none else t.shards.get? shard := by
  refine (Dictionary.get?_filter (p := fun shard : ShardId => decide (shard.index ≠ name))).trans ?_
  by_cases h : shard.index = name <;> simp [h]

theorem get?_foldl_put {source : RecoverySource} (numbers : List Nat) (shards : Dictionary ShardId (List ShardCopy)) :
    (numbers.foldl (fun shards n => Dictionary.put shards ⟨index.name, n⟩
      (freshCopies ⟨index.name, n⟩ index.replicas source)) shards).get? shard =
      if shard.index = index.name ∧ shard.number ∈ numbers then
        some (freshCopies shard index.replicas source) else Dictionary.get? shards shard := by
  induction numbers generalizing shards with
  | nil => simp
  | cons n numbers ih =>
      rw [List.foldl_cons, ih, Dictionary.get?_put]
      obtain ⟨name, number⟩ := shard
      by_cases hname : name = index.name <;> by_cases hn : number = n <;> simp [hname, hn]

@[simp] theorem get?_addIndex {source : RecoverySource} : (t.addIndex index source).shards.get? shard =
    if shard.index = index.name ∧ shard.number < index.shards then
      some (freshCopies shard index.replicas source) else t.shards.get? shard := by
  simp only [addIndex, get?_foldl_put, List.mem_range]

end RoutingTable

end ClusterControl
