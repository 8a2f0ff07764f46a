import ClusterControl.Proofs.Routing.Table
import ClusterControl.Topology.Directory

/-!
Where copies are. Each copy has the nodes that its stage calls for; and but for its assignment and the begin of a
move, whatever happens to it leaves it on nodes that it was on before. So tables in which copies only give up
nodes keep what is said here of the nodes: that they are in the directory, and that different copies of a shard
have none in common.
-/

namespace ClusterControl

namespace ShardCopy

variable {c d e : ShardCopy} {id : NodeId}

/-- All but an unassigned copy are on a node, and a relocating one has a target. -/
structure Fits (c : ShardCopy) : Prop where
  node : c.node.isSome = !c.isUnassigned
  target : c.target.isSome = c.isRelocating

instance (c : ShardCopy) : Decidable c.Fits :=
  decidable_of_iff (c.node.isSome = !c.isUnassigned ∧ c.target.isSome = c.isRelocating)
    ⟨fun h => ⟨h.1, h.2⟩, fun h => ⟨h.node, h.target⟩⟩

/-- The node of a copy and the one that it moves to. -/
def places (c : ShardCopy) : List NodeId :=
  c.node.toList ++ c.target.toList

theorem mem_places : id ∈ c.places ↔ c.node = some id ∨ c.target = some id := by
  simp [places]

theorem mem_places_iff_isOn : id ∈ c.places ↔ (c.isOn id || c.isMovingTo id) = true := by
  simp [mem_places, isOn, isMovingTo]

/-- The copy is where its stage says, and that is on no node. -/
structure Vacant (c : ShardCopy) : Prop where
  fits : c.Fits
  places : c.places = []

theorem isActive_of_isUnassigned (h : c.isUnassigned = true) : c.isActive = false := by
  have hs : c.stage = .unassigned := by simpa [isUnassigned] using h
  simp [isActive, isStarted, isRelocating, hs]

theorem Vacant.isActive (h : c.Vacant) : c.isActive = false := by
  have hn : c.node = none := by
    have hp := h.places
    rw [ShardCopy.places, List.append_eq_nil_iff] at hp
    exact Option.toList_eq_nil_iff.1 hp.1
  have hf := h.fits.node
  rw [hn] at hf
  exact isActive_of_isUnassigned (by simpa using hf)

/-- The same copy later on, on no node that is new to it. -/
structure Yields (c d : ShardCopy) : Prop where
  same : c.sameCopy d = true
  places : d.places ⊆ c.places
  fits : c.Fits → d.Fits

theorem Yields.refl (c : ShardCopy) : c.Yields c :=
  ⟨sameCopy_self c, List.Subset.refl _, id⟩

theorem Yields.trans (h : c.Yields d) (h' : d.Yields e) : c.Yields e := by
  exact ⟨sameCopy_congr h.same ▸ h'.same, List.Subset.trans h'.places h.places, h'.fits ∘ h.fits⟩

theorem yields_start (h : c.isUnassigned = false) : c.Yields c.start := by
  refine ⟨sameCopy_self _, ?_, ?_⟩
  · intro id hid
    simp only [places, start, destination, Option.toList_none, List.append_nil] at hid
    split at hid
    · exact List.mem_append_right _ hid
    · exact List.mem_append_left _ hid
  · intro hf
    refine ⟨?_, rfl⟩
    have hn := hf.node
    have ht := hf.target
    simp only [start, destination]
    split <;> simp_all [isUnassigned]

theorem yields_cancelRelocation (h : c.isRelocating = true) : c.Yields c.cancelRelocation := by
  refine ⟨sameCopy_self _, ?_, ?_⟩
  · simp [places, cancelRelocation]
  · intro hf
    refine ⟨?_, rfl⟩
    have hn := hf.node
    simp_all [isUnassigned, isRelocating, cancelRelocation]

theorem yields_unassign (info : UnassignedInfo) : c.Yields (c.unassign info) :=
  ⟨sameCopy_self _, by simp [places, unassign], fun _ => ⟨rfl, rfl⟩⟩

theorem yields_promote : c.Yields c.promote :=
  ⟨sameCopy_self _, List.Subset.refl _, fun hf => ⟨hf.node, hf.target⟩⟩

theorem yields_demote : c.Yields c.demote :=
  ⟨sameCopy_self _, List.Subset.refl _, fun hf => ⟨hf.node, hf.target⟩⟩

/-- An initializing or relocating copy receives its data. -/
def isRecovering (c : ShardCopy) : Bool :=
  c.isInitializing || c.isRelocating

/-- The same copy later on, in the same role, and active if it was. -/
structure Lasts (c d : ShardCopy) : Prop where
  same : c.sameCopy d = true
  primary : d.primary = c.primary
  active : d.isActive = c.isActive

theorem Lasts.refl (c : ShardCopy) : c.Lasts c :=
  ⟨sameCopy_self c, rfl, rfl⟩

theorem Lasts.trans (h : c.Lasts d) (h' : d.Lasts e) : c.Lasts e :=
  ⟨sameCopy_congr h.same ▸ h'.same, h'.primary.trans h.primary, h'.active.trans h.active⟩

theorem lasts_cancelRelocation (h : c.isRelocating = true) : c.Lasts c.cancelRelocation :=
  ⟨sameCopy_self c, rfl, by simp [isActive, h, cancelRelocation, isStarted]⟩

theorem fits_assign (c : ShardCopy) (id : NodeId) : (c.assign id).Fits :=
  ⟨rfl, rfl⟩

theorem mem_places_assign {id i : NodeId} : i ∈ (c.assign id).places ↔ i = id := by
  simp [places, ShardCopy.assign]

theorem mem_places_relocate {id i : NodeId} : i ∈ (c.relocate id).places ↔ c.node = some i ∨ i = id := by
  simp [places, ShardCopy.relocate]

theorem Fits.relocate (h : c.Fits) (hs : c.isStarted = true) (id : NodeId) : (c.relocate id).Fits := by
  refine ⟨?_, rfl⟩
  have hn := h.node
  simp_all [isUnassigned, isStarted, ShardCopy.relocate]

end ShardCopy

namespace RoutingTable

variable {t u v : RoutingTable} {c d : ShardCopy} {directory : Directory}

/-- Every copy has the nodes that its stage calls for. -/
def Fits (t : RoutingTable) : Prop :=
  ∀ c, t.Has c → c.Fits

/-- Every copy is on a node of the directory, and moves to such a node. -/
def Housed (t : RoutingTable) (directory : Directory) : Prop :=
  ∀ c, t.Has c → ∀ id ∈ c.places, directory.contains id = true

/-- Different copies of a shard have no node in common. -/
def Spread (t : RoutingTable) : Prop :=
  ∀ c d, t.Has c → t.Has d → c.shard = d.shard → c.number ≠ d.number → c.places.Disjoint d.places

/-- Every copy is one that was there before, on no node that is new to it, or a new one on no node at all. -/
def Yields (t u : RoutingTable) : Prop :=
  ∀ d, u.Has d → d.Vacant ∨ ∃ c, t.Has c ∧ c.Yields d

theorem Yields.refl (t : RoutingTable) : t.Yields t :=
  fun c hc => .inr ⟨c, hc, .refl c⟩

theorem Yields.trans (h : t.Yields u) (h' : u.Yields v) : t.Yields v := by
  intro e he
  rcases h' e he with hnew | ⟨d, hd, hde⟩
  · exact .inl hnew
  · rcases h d hd with hnew | ⟨c, hc, hcd⟩
    · exact .inl ⟨hde.fits hnew.fits, List.subset_nil.1 (hnew.places ▸ hde.places)⟩
    · exact .inr ⟨c, hc, hcd.trans hde⟩

theorem Yields.fits (h : t.Yields u) (ht : t.Fits) : u.Fits := by
  intro d hd
  rcases h d hd with hnew | ⟨c, hc, hcd⟩
  · exact hnew.fits
  · exact hcd.fits (ht c hc)

theorem Yields.housed (h : t.Yields u) (ht : t.Housed directory) : u.Housed directory := by
  intro d hd id hid
  rcases h d hd with hnew | ⟨c, hc, hcd⟩
  · rw [hnew.places] at hid
    cases hid
  · exact ht c hc id (hcd.places hid)

theorem Yields.spread (h : t.Yields u) (ht : t.Spread) : u.Spread := by
  intro d d' hd hd' hs hn id hid hid'
  rcases h d hd with hnew | ⟨c, hc, hcd⟩
  · rw [hnew.places] at hid
    cases hid
  · rcases h d' hd' with hnew | ⟨c', hc', hcd'⟩
    · rw [hnew.places] at hid'
      cases hid'
    · obtain ⟨hshard, hnumber⟩ := ShardCopy.sameCopy_iff.1 hcd.same
      obtain ⟨hshard', hnumber'⟩ := ShardCopy.sameCopy_iff.1 hcd'.same
      have hcs : c.shard = c'.shard := hshard.trans (hs.trans hshard'.symm)
      have hcn : c.number ≠ c'.number := by rwa [hnumber, hnumber']
      exact ht c c' hc hc' hcs hcn (hcd.places hid) (hcd'.places hid')

/-- The same copies, each in the role that it had and active if it was. -/
structure Lasting (t u : RoutingTable) : Prop where
  kept : ∀ c, t.Has c → ∃ d, u.Has d ∧ c.Lasts d
  origin : ∀ d, u.Has d → ∃ c, t.Has c ∧ c.Lasts d

theorem Lasting.refl (t : RoutingTable) : t.Lasting t :=
  ⟨fun c hc => ⟨c, hc, .refl c⟩, fun c hc => ⟨c, hc, .refl c⟩⟩

theorem Lasting.trans (h : t.Lasting u) (h' : u.Lasting v) : t.Lasting v := by
  refine ⟨?_, ?_⟩
  · intro c hc
    obtain ⟨d, hd, hcd⟩ := h.kept c hc
    obtain ⟨e, he, hde⟩ := h'.kept d hd
    exact ⟨e, he, hcd.trans hde⟩
  · intro e he
    obtain ⟨d, hd, hde⟩ := h'.origin e he
    obtain ⟨c, hc, hcd⟩ := h.origin d hd
    exact ⟨c, hc, hcd.trans hde⟩

theorem lasting_update (h : t.WellFormed) (hc : t.Has c) (hl : c.Lasts d) : t.Lasting (t.update d) := by
  refine ⟨?_, ?_⟩
  · intro e he
    cases hs : e.sameCopy d with
    | true =>
        obtain rfl := hc.eq_of_sameCopy he (ShardCopy.sameCopy_congr hl.same ▸ ShardCopy.sameCopy_comm ▸ hs)
        exact ⟨d, hc.update_self h hl.same, hl⟩
    | false => exact ⟨e, he.update_of_ne h hs, .refl e⟩
  · intro e he
    rcases (hc.update_iff h hl.same).1 he with rfl | ⟨he, _⟩
    · exact ⟨c, hc, hl⟩
    · exact ⟨e, he, .refl e⟩

theorem yields_update (h : t.WellFormed) (hc : t.Has c) (hy : c.Yields d) : t.Yields (t.update d) := by
  intro e he
  rcases (hc.update_iff h hy.same).1 he with rfl | ⟨he, _⟩
  · exact .inr ⟨c, hc, hy⟩
  · exact .inr ⟨e, he, .refl e⟩

end RoutingTable

end ClusterControl
