import ClusterControl.Allocation.Rules.Recovery
import ClusterControl.Proofs.Allocation.Verdict
import ClusterControl.Proofs.Routing.Staffing
import Mathlib.Data.Finset.Range

/-!
What the shards of a resized index are built from. Whole multiples of shards are put together or split: the source is
drawn on exactly where one number of shards divides the other. Otherwise fewer shards leave out the last ones of the
source, and more shards ask for ones that it does not have.
-/

namespace ClusterControl

namespace Index

variable {target source : Index} {t n : Nat}

/-- All that the shards of an index are built from are the shards of its source: each of them once, or where the index
has more shards, one for each, and every one for some. -/
def Covers (target source : Index) : Prop :=
  if target.shards ≤ source.shards then
    ∀ n, ((List.range target.shards).flatMap (target.resizeSourceShards source)).count n =
      if n < source.shards then 1 else 0
  else
    (∀ t < target.shards, ∃ n < source.shards, target.resizeSourceShards source t = [n]) ∧
      ∀ n < source.shards, ∃ t < target.shards, n ∈ target.resizeSourceShards source t

/-- The number, if it fits 32 bits. -/
def word? (n : Nat) : Option Nat :=
  if n < UInt32.size then some n else none

/-- The shards that a shard is built from, if no number on the way to them overflows. -/
def resizeSourceShards? (target source : Index) (shard : Nat) : Option (List Nat) :=
  let targetShards := max target.shards 1
  let sourceShards := max source.shards 1
  if targetShards ≤ sourceShards then do
    let factor := sourceShards / targetShards
    let first ← word? (shard * factor)
    let next ← word? (shard + 1)
    let last ← word? (next * factor)
    return List.range' first (last - first)
  else some [shard / (targetShards / sourceShards)]

theorem word?_of_lt (h : n < UInt32.size) : word? n = some n :=
  if_pos h

theorem resizeSourceShards?_eq (hs : source.shards < UInt32.size) (ht : t < target.shards) :
    target.resizeSourceShards? source t = some (target.resizeSourceShards source t) := by
  rw [resizeSourceShards?, resizeSourceShards]
  dsimp only
  split
  case isTrue h =>
    have hone : 1 < UInt32.size := by decide
    -- Even the end of the last run is at most the number of source shards.
    have hend : (t + 1) * (max source.shards 1 / max target.shards 1) ≤ max source.shards 1 := by
      refine Nat.le_trans (Nat.mul_le_mul_right _ ?_) (Nat.mul_div_le _ (max target.shards 1))
      omega
    have hstart : t * (max source.shards 1 / max target.shards 1) ≤
        (t + 1) * (max source.shards 1 / max target.shards 1) := Nat.mul_le_mul_right _ (Nat.le_succ t)
    rw [word?_of_lt (by omega), word?_of_lt (by omega)]
    simp only [Option.bind_eq_bind, Option.bind_some]
    rw [word?_of_lt (by omega)]
    simp [Nat.succ_mul]
  case isFalse => rfl

section Shrink

variable (ht : 0 < target.shards) (h : target.shards ≤ source.shards)
include ht h

theorem resizeSourceShards_shrink (t : Nat) : target.resizeSourceShards source t =
    List.range' (t * (source.shards / target.shards)) (source.shards / target.shards) := by
  rw [resizeSourceShards, Nat.max_eq_left ht, Nat.max_eq_left (Nat.lt_of_lt_of_le ht h), if_pos h]

/-- Runs that follow on each other make up one run. -/
theorem flatMap_resizeSourceShards (k : Nat) : (List.range k).flatMap (target.resizeSourceShards source) =
    List.range (k * (source.shards / target.shards)) := by
  induction k with
  | zero => simp
  | succ k ih =>
      rw [List.range_succ, List.flatMap_append, ih, List.flatMap_singleton, resizeSourceShards_shrink ht h,
        List.range_eq_range', List.range_eq_range', Nat.succ_mul]
      simpa using List.range'_append_1 (s := 0)

theorem covers_iff_of_le : target.Covers source ↔ target.shards ∣ source.shards := by
  have hcount : ∀ n, ((List.range target.shards).flatMap (target.resizeSourceShards source)).count n =
      if n < target.shards * (source.shards / target.shards) then 1 else 0 := by
    intro n
    rw [flatMap_resizeSourceShards ht h, List.nodup_range.count]
    simp only [List.mem_range]
  have hle : target.shards * (source.shards / target.shards) ≤ source.shards := Nat.mul_div_le _ _
  rw [Covers, if_pos h]
  constructor
  · intro hall
    by_contra hd
    have hne : target.shards * (source.shards / target.shards) ≠ source.shards := fun he => hd ⟨_, he.symm⟩
    -- The first shard behind the runs is in none of them.
    have hfirst := hall (target.shards * (source.shards / target.shards))
    rw [hcount, if_neg (Nat.lt_irrefl _), if_pos (by omega)] at hfirst
    cases hfirst
  · intro hd n
    rw [hcount, Nat.mul_div_cancel' hd]

end Shrink

section Split

variable (hs : 0 < source.shards) (h : source.shards < target.shards)
include hs h

theorem resizeSourceShards_split (t : Nat) :
    target.resizeSourceShards source t = [t / (target.shards / source.shards)] := by
  rw [resizeSourceShards, Nat.max_eq_left (Nat.lt_trans hs h), Nat.max_eq_left hs, if_neg (Nat.not_le.2 h)]

theorem exists_mem_resizeSourceShards (hn : n < source.shards) :
    ∃ t < target.shards, n ∈ target.resizeSourceShards source t := by
  have hfactor : 0 < target.shards / source.shards := Nat.div_pos (Nat.le_of_lt h) hs
  refine ⟨n * (target.shards / source.shards), ?_, ?_⟩
  · calc n * (target.shards / source.shards) < source.shards * (target.shards / source.shards) :=
          Nat.mul_lt_mul_of_pos_right hn hfactor
      _ ≤ target.shards := Nat.mul_div_le _ _
  · rw [resizeSourceShards_split hs h, Nat.mul_div_cancel _ hfactor]
    exact List.mem_singleton_self n

theorem covers_iff_of_lt : target.Covers source ↔ source.shards ∣ target.shards := by
  have hfactor : 0 < target.shards / source.shards := Nat.div_pos (Nat.le_of_lt h) hs
  have hle : source.shards * (target.shards / source.shards) ≤ target.shards := Nat.mul_div_le _ _
  rw [Covers, if_neg (Nat.not_le.2 h)]
  constructor
  · rintro ⟨hall, _⟩
    by_contra hd
    have hne : source.shards * (target.shards / source.shards) ≠ target.shards := fun he => hd ⟨_, he.symm⟩
    obtain ⟨n, hn, he⟩ := hall (source.shards * (target.shards / source.shards)) (by omega)
    rw [resizeSourceShards_split hs h, Nat.mul_div_cancel _ hfactor] at he
    cases he
    exact Nat.lt_irrefl _ hn
  · intro hd
    refine ⟨fun t ht => ⟨_, ?_, resizeSourceShards_split hs h t⟩, fun n hn => exists_mem_resizeSourceShards hs h hn⟩
    rwa [Nat.div_lt_iff_lt_mul hfactor, Nat.mul_div_cancel' hd]

end Split

end Index

namespace Rules

variable {target source : Index} {r : Round} {c : ShardCopy} {node : Node} {n t : Nat}

theorem resizeObstacle?_eq_none {name : String} {numbers : List Nat} : resizeObstacle? r node name numbers = none ↔
    ∀ n ∈ numbers, r.routing.primaryNode? ⟨name, n⟩ = some node.id := by
  induction numbers with
  | nil => simp [resizeObstacle?]
  | cons n numbers ih =>
      rw [List.forall_mem_cons, resizeObstacle?, RoutingTable.primaryNode?]
      cases r.routing.activePrimary? ⟨name, n⟩ with
      | none => simp
      | some primary =>
          dsimp only [Option.bind_some]
          split
          case isTrue h => rw [ih, and_iff_right h]
          case isFalse h => simp [h]

/-- The copy is a primary that waits for its first place, and its index is made from an index that is there. -/
structure Resizes (target source : Index) (r : Round) (c : ShardCopy) : Prop where
  primary : c.primary = true
  unassigned : c.isUnassigned = true
  shard : c.shard.index = target.name
  index : r.index? target.name = some target
  origin : r.index? source.name = some source
  resized : target.settings.resizeSource = some source.name

theorem resize_isYes_iff (h : Resizes target source r c) : (resize.allocate r c node).isYes = true ↔
    ∀ n ∈ target.resizeSourceShards source c.shard.number, r.routing.primaryNode? ⟨source.name, n⟩ = some node.id := by
  have hindex : r.indexOf? c = some target := by rw [Round.indexOf?, h.shard, h.index]
  rw [← resizeObstacle?_eq_none]
  simp only [resize, h.primary, h.unassigned, hindex, h.resized, h.origin, Bool.not_true, Bool.or_false,
    Bool.false_eq_true, if_false]
  cases resizeObstacle? r node source.name (target.resizeSourceShards source c.shard.number) with
  | none => simp
  | some obstacle => simp

/-- Some primary of the index is placed only where the primary of this shard of the source is. -/
def Regards (target source : Index) (n : Nat) : Prop :=
  ∃ t < target.shards, ∀ (r : Round) (c : ShardCopy) (node : Node), Resizes target source r c → c.shard.number = t →
    (resize.allocate r c node).isYes = true → r.routing.primaryNode? ⟨source.name, n⟩ = some node.id

theorem regards_of_mem (ht : t < target.shards) (hn : n ∈ target.resizeSourceShards source t) :
    Regards target source n := by
  refine ⟨t, ht, ?_⟩
  rintro r c node h rfl hy
  exact (resize_isYes_iff h).1 hy n hn

section AllBut

variable {count m : Nat} {id : NodeId}

/-- Shards of the source have their primaries on one node, all but one shard. -/
def allBut (target source : Index) (count n : Nat) (id : NodeId) : Round :=
  let started := (RoutingTable.empty.addIndex { source with shards := count, replicas := 0 } .emptyStore).mapCopies fun c =>
    if c.shard.number = n then c else { c with stage := .started, node := some id }
  .start { (ClusterState.initial.putIndex source).putIndex target with routing := started }
    Settings.initial.allocation .empty

theorem primaryNode?_allBut (hm : m < count) :
    (allBut target source count n id).routing.primaryNode? ⟨source.name, m⟩ = if m = n then none else some id := by
  rw [RoutingTable.primaryNode?, RoutingTable.activePrimary?, RoutingTable.primary?, allBut, Round.start,
    RoutingTable.copies_mapCopies, RoutingTable.copies, RoutingTable.get?_addIndex, if_pos ⟨rfl, hm⟩]
  by_cases h : m = n
  · simp [h, RoutingTable.freshCopies, ShardCopy.fresh, ShardCopy.isActive, ShardCopy.isStarted, ShardCopy.isRelocating]
  · simp only [Option.getD_some, RoutingTable.freshCopies, ShardCopy.fresh, List.range_zero, List.map_cons, List.map_nil,
      if_neg h]
    rfl

theorem resizes_allBut (hne : target.name ≠ source.name) (hr : target.settings.resizeSource = some source.name) :
    Resizes target source (allBut target source count n id) (.placeholder ⟨target.name, t⟩ 0) where
  primary := rfl
  unassigned := rfl
  shard := rfl
  index := SortedBy.find?_eq_some_iff.2 ⟨SortedBy.mem_insert.2 (.inl rfl), rfl⟩
  origin := SortedBy.find?_eq_some_iff.2
    ⟨SortedBy.mem_insert.2 (.inr ⟨SortedBy.mem_insert.2 (.inl rfl), hne.symm⟩), rfl⟩
  resized := hr

end AllBut

/-- The rule has no regard for a shard of the source that no shard of the index is built from. -/
theorem regards_iff (hne : target.name ≠ source.name) (hr : target.settings.resizeSource = some source.name) :
    Regards target source n ↔ ∃ t < target.shards, n ∈ target.resizeSourceShards source t := by
  constructor
  · rintro ⟨t, ht, hall⟩
    refine ⟨t, ht, ?_⟩
    by_contra hn
    -- Where all shards that it is built from are on the node, the primary goes there whatever this one does.
    obtain ⟨count, hcount⟩ := (n :: target.resizeSourceShards source t).toFinset.exists_nat_subset_range
    have hlt : ∀ m ∈ n :: target.resizeSourceShards source t, m < count := by
      intro m hm
      exact Finset.mem_range.1 (hcount (List.mem_toFinset.2 hm))
    have hresizes : Resizes target source (allBut target source count n "a") (.placeholder ⟨target.name, t⟩ 0) :=
      resizes_allBut hne hr
    have hy : (resize.allocate (allBut target source count n "a") (.placeholder ⟨target.name, t⟩ 0)
        (.bare "a" "a")).isYes = true := by
      rw [resize_isYes_iff hresizes]
      intro m hm
      have hmn : m ≠ n := by
        rintro rfl
        exact hn hm
      rw [primaryNode?_allBut (hlt m (List.mem_cons_of_mem n hm)), if_neg hmn]
      rfl
    have hthere := hall _ _ _ hresizes rfl hy
    rw [primaryNode?_allBut (hlt n List.mem_cons_self), if_pos rfl] at hthere
    cases hthere
  · rintro ⟨t, ht, hn⟩
    exact regards_of_mem ht hn

/-- An index of three shards. -/
def three : Index :=
  ⟨"three", 3, 0, .initial⟩

/-- An index of some shards that is made from it. -/
def fromThree (shards : Nat) : Index :=
  ⟨"resized", shards, 0, { IndexSettings.initial with resizeSource := some "three" }⟩

/-- Two shards leave out the last one of three, and no primary waits for it. Four shards ask for a fourth of the three,
and the primary that does so is refused on the node where all of the source is. -/
theorem remainder_disregarded :
    ¬ (fromThree 2).Covers three ∧ ¬ Regards (fromThree 2) three 2 ∧ ¬ (fromThree 4).Covers three ∧
      (∀ n < three.shards, (allBut (fromThree 4) three 3 3 "a").routing.primaryNode? ⟨"three", n⟩ = some "a") ∧
      resize.allocate (allBut (fromThree 4) three 3 3 "a") (.placeholder ⟨"resized", 3⟩ 0) (.bare "a" "a") =
        .refuse "resize" "source primary [three][3] is not active" := by
  refine ⟨?_, ?_, ?_, ?_, ?_⟩
  · rw [Index.covers_iff_of_le (by decide) (by decide)]
    decide
  · rw [regards_iff (by decide) rfl]
    decide
  · rw [Index.covers_iff_of_lt (by decide) (by decide)]
    decide
  · decide
  · rfl

/-- A resized index is built from all of its source exactly if one number of shards divides the other. Otherwise fewer
shards are built from the first ones of the source, each of them once, and have no regard for the others; more shards
are built from one each, but not all of these are there. In no case do numbers of 32 bits overflow. -/
theorem resize_covers_iff_dvd (ht : 0 < target.shards) (hs : 0 < source.shards) :
    (target.Covers source ↔ target.shards ∣ source.shards ∨ source.shards ∣ target.shards) ∧
    (target.shards ≤ source.shards → (List.range target.shards).flatMap (target.resizeSourceShards source) =
      List.range (target.shards * (source.shards / target.shards))) ∧
    (source.shards < target.shards →
      (∀ t, target.resizeSourceShards source t = [t / (target.shards / source.shards)]) ∧
      ∀ n < source.shards, ∃ t < target.shards, n ∈ target.resizeSourceShards source t) ∧
    (source.shards < UInt32.size → ∀ t < target.shards,
      target.resizeSourceShards? source t = some (target.resizeSourceShards source t)) ∧
    (target.name ≠ source.name → target.settings.resizeSource = some source.name → ∀ n < source.shards,
      (Regards target source n ↔
        source.shards < target.shards ∨ n < target.shards * (source.shards / target.shards))) := by
  refine ⟨?_, fun h => Index.flatMap_resizeSourceShards ht h _, fun h => ?_, fun hw t h => ?_, fun hne hr n hn => ?_⟩
  · rcases Nat.lt_or_ge source.shards target.shards with h | h
    · rw [Index.covers_iff_of_lt hs h]
      refine ⟨.inr, fun hd => hd.elim (fun hd => ?_) id⟩
      exact absurd (Nat.le_of_dvd hs hd) (Nat.not_le.2 h)
    · rw [Index.covers_iff_of_le ht h]
      refine ⟨.inl, fun hd => hd.elim id fun hd => ?_⟩
      exact ⟨1, by rw [Nat.mul_one, Nat.le_antisymm h (Nat.le_of_dvd ht hd)]⟩
  · exact ⟨Index.resizeSourceShards_split hs h, fun n hn => Index.exists_mem_resizeSourceShards hs h hn⟩
  · exact Index.resizeSourceShards?_eq hw h
  · rw [regards_iff hne hr]
    rcases Nat.lt_or_ge source.shards target.shards with h | h
    · exact iff_of_true (Index.exists_mem_resizeSourceShards hs h hn) (.inl h)
    · rw [or_iff_right (Nat.not_lt.2 h), ← List.mem_range, ← Index.flatMap_resizeSourceShards ht h]
      simp only [List.mem_flatMap, List.mem_range]

theorem six_cover_three : 0 < (fromThree 6).shards ∧ 0 < three.shards ∧ (fromThree 6).Covers three ∧
    ∀ n < three.shards, Regards (fromThree 6) three n := by
  have ht : 0 < (fromThree 6).shards := by decide
  have hs : 0 < three.shards := by decide
  obtain ⟨hcovers, _, _, _, hregards⟩ := resize_covers_iff_dvd ht hs
  refine ⟨ht, hs, hcovers.2 (by decide), fun n hn => ?_⟩
  exact (hregards (by decide) rfl n hn).2 (.inl (by decide))

end Rules

end ClusterControl
