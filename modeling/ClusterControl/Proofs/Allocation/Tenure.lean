import ClusterControl.Proofs.Allocation.Attendance
import ClusterControl.Proofs.Allocation.ShardLimits

/-!
Copies may stay where they are placed. Filters, disks, limits on shards and awareness each say where a copy may go
and also whether it may stay. By each of them a copy may stay on a node that takes it, and where it arrives no
other copy has to leave that did not have to before. So whatever else an allocation places, it puts no copy where
the rules would have it leave.
-/

namespace ClusterControl

open Balance

/-- By this rule a copy may stay on the node that takes it, and no other copy has to leave when it arrives. -/
structure Rule.Steady (rule : Rule) : Prop where
  settles : ∀ {r c target advanced}, Arrival r c target advanced → (rule.allocate r c target).isYes = true →
    (rule.remain (r.update advanced) advanced target).isNo = false
  spares : ∀ {r c target advanced}, Arrival r c target advanced → (rule.allocate r c target).isYes = true →
    ∀ d node, (rule.remain r d node).isNo = false → (rule.remain (r.update advanced) d node).isNo = false

namespace Rules

variable {r : Round} {c d advanced : ShardCopy} {node target : Node} {coming : Bool} {key value : String} {total : Nat}
  {keys : List String}

theorem steady_of_silent {rule : Rule} (h : rule.remain = fun _ _ _ => .yes) : rule.Steady := by
  refine ⟨fun _ _ => ?_, fun _ _ _ _ _ => ?_⟩ <;> rw [h] <;> rfl

theorem passesFilters_update (advanced d : ShardCopy) (node : Node) :
    passesFilters (r.update advanced) d node = passesFilters r d node := by
  simp only [passesFilters, Round.update_indexOf?, Round.update_settings]

theorem filter_steady : filter.Steady := by
  refine ⟨fun {r c target advanced} h hy => ?_, fun {r c target advanced} _ _ d node hd => ?_⟩
  · change (passesFilters (r.update advanced) advanced target).isNo = false
    have hcopy : passesFilters r advanced target = passesFilters r c target := by
      simp only [passesFilters, Round.indexOf?, h.shard_eq]
    rw [passesFilters_update, hcopy]
    exact Decision.isNo_of_isYes hy
  · change (passesFilters (r.update advanced) d node).isNo = false
    rw [passesFilters_update]
    exact hd

/-- Whether a copy may stay depends on the disk of the node alone. -/
theorem diskThreshold_update (advanced d c : ShardCopy) (node : Node) :
    diskThreshold.remain (r.update advanced) d node = diskThreshold.remain r c node := by
  simp only [diskThreshold, Round.update_settings, Round.update_info]

theorem diskThreshold_remain (hy : (diskThreshold.allocate r c node).isYes = true) :
    (diskThreshold.remain r c node).isNo = false := by
  simp only [diskThreshold] at hy ⊢
  split at hy
  case isTrue h => simp [h]
  case isFalse h =>
    rw [if_neg h]
    split at hy
    case h_1 hn => rfl
    case h_2 usage hn =>
      split at hy
      case isTrue => cases hy
      case isFalse hlow => simp [hlow]

theorem diskThreshold_steady : diskThreshold.Steady := by
  refine ⟨fun {r c target advanced} _ hy => ?_, fun {r c target advanced} _ _ d node hd => ?_⟩
  · rw [diskThreshold_update advanced advanced c target]
    exact diskThreshold_remain hy
  · rw [diskThreshold_update advanced d d node]
    exact hd

theorem shardsLimit_steady : shardsLimit.Steady := by
  refine ⟨fun h hy => ?_, fun h hy d node hd => ?_⟩
  · have hroom := underShardLimits_not_isNo.1 (Decision.isNo_of_isYes hy)
    refine underShardLimits_not_isNo.2 ?_
    rw [h.shard_eq]
    exact h.underLimits hroom hroom.present
  · have hroom := underShardLimits_not_isNo.1 (Decision.isNo_of_isYes hy)
    exact underShardLimits_not_isNo.2 (h.underLimits hroom (underShardLimits_not_isNo.1 hd))

section Awareness

/-- How many of the copies of a shard may have a value, if they are spread evenly over all values. -/
def fairShare (r : Round) (key value : String) (total : Nat) : Nat :=
  (total + (valuesOf r key value).size - 1) / (valuesOf r key value).size

/-- The node has a value for each of these attributes, and no more copies of the shard have it than its share. -/
def Even (coming : Bool) (r : Round) (c : ShardCopy) (node : Node) (total : Nat) (keys : List String) : Prop :=
  ∀ key ∈ keys, ∃ value, node.valueOf? key = some value ∧
    copiesWithValue r key value coming c ≤ fairShare r key value total

theorem spreadObstacle?_eq_none :
    spreadObstacle? coming r c node total keys = none ↔ Even coming r c node total keys := by
  unfold Even
  induction keys with
  | nil => simp [spreadObstacle?]
  | cons key keys ih =>
      rw [List.forall_mem_cons, spreadObstacle?]
      split
      case h_1 hn => simp [hn]
      case h_2 value hn =>
        dsimp only
        split
        case isTrue hover =>
          refine iff_of_false nofun ?_
          rintro ⟨⟨v, hv, hle⟩, -⟩
          cases hn.symm.trans hv
          exact absurd hle (Nat.not_le_of_lt hover)
        case isFalse hunder =>
          rw [ih]
          exact (and_iff_right ⟨value, hn, Nat.le_of_not_lt hunder⟩).symm

theorem spreadsEvenly_not_isNo : (spreadsEvenly coming r c node).isNo = false ↔
    ∀ index, r.indexOf? c = some index → Even coming r c node (index.replicas + 1) r.settings.awareness := by
  unfold spreadsEvenly
  split
  case isTrue hempty =>
    have hnone : r.settings.awareness = [] := List.isEmpty_iff.1 hempty
    simp [hnone, Even]
  case isFalse =>
    cases hi : r.indexOf? c with
    | none => simp
    | some index =>
        simp only [Option.some.injEq, forall_eq', ← spreadObstacle?_eq_none]
        cases spreadObstacle? coming r c node (index.replicas + 1) r.settings.awareness <;> simp

theorem fairShare_update (advanced : ShardCopy) :
    fairShare (r.update advanced) key value total = fairShare r key value total := by
  simp only [fairShare, valuesOf, Round.update_directory]

/-- How many of the copies of a shard have a value, in another table of the same round. -/
def valueCount (r : Round) (t : RoutingTable) (key value : String) (shard : ShardId) : Nat :=
  (t.copies shard).countP fun d => valueAt? r key d = some value

theorem copiesWithValue_present : copiesWithValue r key value false c = valueCount r r.routing key value c.shard :=
  rfl

theorem copiesWithValue_update (advanced : ShardCopy) : copiesWithValue (r.update advanced) key value false c =
    valueCount r (r.routing.update advanced) key value c.shard := by
  rw [copiesWithValue_present, Round.update_routing]
  refine List.countP_congr fun d _ => ?_
  rw [decide_eq_true_iff, decide_eq_true_iff, valueAt?, valueAt?, Round.update_directory]

variable (h : Arrival r c target advanced)
include h

theorem valueAt?_advanced (key : String) : valueAt? r key advanced = target.valueOf? key := by
  rw [valueAt?, h.destination_eq, Option.bind_some, h.find?_target, Option.bind_some]

theorem valueCount_update (key value : String) :
    valueCount r (r.routing.update advanced) key value c.shard + (if valueAt? r key c = some value then 1 else 0) =
      valueCount r r.routing key value c.shard + if target.valueOf? key = some value then 1 else 0 := by
  have hcount := RoutingTable.countP_copies_update h.wellFormed h.has h.sameCopy fun d => valueAt? r key d = some value
  simp only [decide_eq_true_eq, valueAt?_advanced h] at hcount
  exact hcount

/-- The rule counts a copy that is to come as the table does once it is there. -/
theorem valueCount_arrived (ht : target.valueOf? key = some value) :
    valueCount r (r.routing.update advanced) key value c.shard ≤ copiesWithValue r key value true c := by
  have hcount := valueCount_update h key value
  rw [if_pos ht] at hcount
  have hcoming : copiesWithValue r key value true c = (if valueAt? r key c = some value then
      valueCount r r.routing key value c.shard - 1 else valueCount r r.routing key value c.shard) + 1 := rfl
  by_cases hv : valueAt? r key c = some value
  · rw [if_pos hv] at hcount hcoming
    omega
  · rw [if_neg hv] at hcount hcoming
    omega

theorem even_settled (hroom : Even true r c target total keys) :
    Even false (r.update advanced) advanced target total keys := by
  intro key hkey
  obtain ⟨value, hvalue, hcount⟩ := hroom key hkey
  refine ⟨value, hvalue, ?_⟩
  rw [fairShare_update, copiesWithValue_update, h.shard_eq]
  exact Nat.le_trans (valueCount_arrived h hvalue) hcount

theorem even_spared (hd : Even false r d node total keys)
    (hroom : d.shard = c.shard → Even true r c target total keys) :
    Even false (r.update advanced) d node total keys := by
  intro key hkey
  obtain ⟨value, hvalue, hcount⟩ := hd key hkey
  refine ⟨value, hvalue, ?_⟩
  rw [copiesWithValue_present] at hcount
  rw [fairShare_update, copiesWithValue_update]
  by_cases hs : d.shard = c.shard
  · obtain ⟨there, hthere, hle⟩ := hroom hs key hkey
    rw [hs] at hcount ⊢
    by_cases hv : there = value
    · subst hv
      exact Nat.le_trans (valueCount_arrived h hthere) hle
    · -- The copy that arrives has another value, so there are no more copies with this one.
      have hother : target.valueOf? key ≠ some value := by simpa [hthere] using hv
      have hcounts := valueCount_update h key value
      rw [if_neg hother] at hcounts
      omega
  · have hcopies : (r.routing.update advanced).copies d.shard = r.routing.copies d.shard := by
      rw [RoutingTable.copies_update, if_neg (h.shard_eq ▸ hs)]
    rw [valueCount, hcopies]
    exact hcount

end Awareness

theorem awareness_steady : awareness.Steady := by
  refine ⟨fun {r c target advanced} h hy => ?_, fun {r c target advanced} h hy d node hd => ?_⟩
  · have hroom := spreadsEvenly_not_isNo.1 (Decision.isNo_of_isYes hy)
    refine spreadsEvenly_not_isNo.2 fun index hi => ?_
    rw [Round.update_indexOf?, Round.indexOf?, h.shard_eq] at hi
    rw [Round.update_settings]
    exact even_settled h (hroom index hi)
  · have hroom := spreadsEvenly_not_isNo.1 (Decision.isNo_of_isYes hy)
    refine spreadsEvenly_not_isNo.2 fun index hi => ?_
    rw [Round.update_indexOf?] at hi
    rw [Round.update_settings]
    refine even_spared h (spreadsEvenly_not_isNo.1 hd index hi) fun hs => hroom index ?_
    rw [Round.indexOf?, ← hs]
    exact hi

theorem builtin_steady : ∀ rule ∈ builtin, rule.Steady := by
  -- All but four of the rules leave it to the others whether a copy may stay.
  have hsilent {rule : Rule} (h : rule.remain = fun _ _ _ => .yes) : rule.Steady := steady_of_silent h
  simp only [builtin, List.forall_mem_cons]
  refine ⟨hsilent rfl, hsilent rfl, hsilent rfl, hsilent rfl, hsilent rfl, hsilent rfl, hsilent rfl, hsilent rfl,
    hsilent rfl, hsilent rfl, filter_steady, hsilent rfl, diskThreshold_steady, hsilent rfl, shardsLimit_steady,
    awareness_steady, ?_⟩
  exact fun _ h => absurd h List.not_mem_nil

end Rules

namespace Balance

variable {chain : Chain} {r next : Round} {c : ShardCopy} {t : RoutingTable}

/-- The copies that are not in the table `t` as they are here were placed since, each on a data node or on its way
to one, and may stay there. -/
def Tenured (chain : Chain) (t : RoutingTable) (r : Round) : Prop :=
  ∀ c, r.routing.Has c → ¬ t.Has c → c.isRecovering = true ∧
    ∃ node ∈ r.directory.dataNodes, c.destination = some node.id ∧ (chain.canRemain r c node).isNo = false

theorem Step.tenured (h : Step chain r next) (hs : ∀ rule ∈ chain, rule.Steady) (hw : r.routing.WellFormed)
    (ht : Tenured chain t r) : Tenured chain t next := by
  obtain ⟨c, target, advanced, ha, hy, rfl⟩ := h.arrival hw
  have hrules : ∀ rule ∈ chain, (rule.allocate r c target).isYes = true := Chain.combine_isYes.1 hy
  intro d hd hnew
  rw [Round.update_routing] at hd
  rw [Round.update_directory]
  rcases (ha.has.update_iff hw ha.sameCopy).1 hd with rfl | ⟨hd, _⟩
  · refine ⟨ha.lands.advances.after, target, ha.data, ha.destination_eq, Chain.combine_not_isNo.2 ?_⟩
    exact fun rule hm => (hs rule hm).settles ha (hrules rule hm)
  · obtain ⟨hr, node, hn, hdestination, hremain⟩ := ht d hd hnew
    refine ⟨hr, node, hn, hdestination, Chain.combine_not_isNo.2 fun rule hm => ?_⟩
    exact (hs rule hm).spares ha (hrules rule hm) d node (Chain.combine_not_isNo.1 hremain rule hm)

theorem allocate_tenured (hs : ∀ rule ∈ chain, rule.Steady) (hw : r.routing.WellFormed) :
    Tenured chain r.routing (allocate chain r) := by
  have hkept := keeps_of_steps (P := fun next => next.routing.WellFormed ∧ Tenured chain r.routing next) ?_
    (allocate_steps chain hw) ⟨hw, fun c hc hnew => absurd hc hnew⟩
  · exact hkept.2
  · rintro mid next h ⟨hw, ht⟩
    exact ⟨h.wellFormed hw, h.tenured hs hw ht⟩

/-- A copy that an allocation placed, on a data node or on its way to one, may stay there by the table that the
allocation leaves behind. -/
theorem placed_copies_may_remain (r : Round) (hw : r.routing.WellFormed) (c : ShardCopy)
    (hc : (allocate Rules.builtin r).routing.Has c) (hnew : ¬ r.routing.Has c) :
    (c.isInitializing = true ∨ c.isRelocating = true) ∧
      ∃ node ∈ (allocate Rules.builtin r).directory.dataNodes, c.destination = some node.id ∧
        (Rules.builtin.canRemain (allocate Rules.builtin r) c node).isNo = false := by
  obtain ⟨hrecovering, hremain⟩ := allocate_tenured Rules.builtin_steady hw c hc hnew
  exact ⟨by simpa [ShardCopy.isRecovering] using hrecovering, hremain⟩

/-- A cluster of one node that takes one shard, where two are to be placed. -/
def crowded : Round :=
  let routed := ClusterState.alone.putIndex ⟨"logs", 2, 0, .initial⟩
  let settings := { Settings.initial.allocation with totalShardsPerNode := some 1 }
  .start { routed with routing := routed.aligned } settings .empty

def seated : ShardCopy :=
  ⟨⟨"logs", 0⟩, 0, true, .initializing, some "a", none, some .emptyStore, some (.fresh .indexCreated)⟩

theorem seated_may_remain :
    crowded.routing.WellFormed ∧ (allocate Rules.builtin crowded).routing.Has seated ∧ ¬ crowded.routing.Has seated ∧
      ((allocate Rules.builtin crowded).routing.onOrMovingTo "a").length = 1 ∧
      ∃ node ∈ (allocate Rules.builtin crowded).directory.dataNodes, node.id = "a" ∧
        (Rules.builtin.canRemain (allocate Rules.builtin crowded) seated node).isNo = false := by
  have hw : crowded.routing.WellFormed := ClusterState.aligned_wellFormed RoutingTable.wellFormed_empty
  have hc : (allocate Rules.builtin crowded).routing.Has seated := by decide +kernel
  have hnew : ¬ crowded.routing.Has seated := by decide
  have hfull : ((allocate Rules.builtin crowded).routing.onOrMovingTo "a").length = 1 := by decide +kernel
  obtain ⟨_, node, hn, hdestination, hremain⟩ := placed_copies_may_remain crowded hw seated hc hnew
  exact ⟨hw, hc, hnew, hfull, node, hn, (Option.some.inj hdestination).symm, hremain⟩

end Balance

end ClusterControl
