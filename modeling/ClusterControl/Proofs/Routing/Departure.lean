import ClusterControl.Allocation.Sync
import ClusterControl.Proofs.Routing.Lifecycle
import Mathlib.Logic.Relation

/-!
Copies that lose their place. The active primary of a shard hands the lead to an active replica on a node of
the directory, if there is one; all other copies stay as they are. Taking the copies off the nodes that left
is a pass of such losses and of moves that are given up, and it leaves no copy on a node that is gone.
-/

namespace ClusterControl

namespace ShardCopy

variable {c d e : ShardCopy} {directory : Directory}

/-- An active replica on a node of the directory, which may take the lead. -/
def isHeir (directory : Directory) (c : ShardCopy) : Bool :=
  !c.primary && c.isActive && c.node.any directory.contains

/-- The copy stays as it is, or takes the lead. -/
def Keeps (directory : Directory) (c d : ShardCopy) : Prop :=
  d = c ∨ c.isHeir directory = true ∧ d = c.promote

theorem Keeps.sameCopy (h : c.Keeps directory d) : c.sameCopy d = true := by
  rcases h with rfl | ⟨_, rfl⟩ <;> exact sameCopy_self _

theorem Keeps.isActive (h : c.Keeps directory d) : d.isActive = c.isActive := by
  rcases h with rfl | ⟨_, rfl⟩ <;> rfl

theorem Keeps.node (h : c.Keeps directory d) : d.node = c.node := by
  rcases h with rfl | ⟨_, rfl⟩ <;> rfl

theorem Keeps.target (h : c.Keeps directory d) : d.target = c.target := by
  rcases h with rfl | ⟨_, rfl⟩ <;> rfl

end ShardCopy

namespace RoutingTable

variable {t u : RoutingTable} {c d e : ShardCopy} {info : UnassignedInfo} {directory : Directory}

/-- A copy loses its place. Where it is the active primary and there is an heir, that one takes the lead. -/
inductive Loss (directory : Directory) (t : RoutingTable) (c : ShardCopy) (info : UnassignedInfo) :
    RoutingTable → Prop
  | single (hc : t.Has c) (hp : c.primary = true → c.isActive = false) :
      Loss directory t c info (t.update (c.unassign info))
  | last (hc : t.Has c) (hp : c.primary = true) (ha : c.isActive = true)
      (hn : ∀ e, t.Has e → e.shard = c.shard → e.isHeir directory = false) :
      Loss directory t c info (t.update (c.unassign info))
  | succeeded {heir : ShardCopy} (hc : t.Has c) (hp : c.primary = true)
      (ha : c.isActive = true) (hh : t.Has heir) (hs : heir.shard = c.shard) (hi : heir.isHeir directory = true) :
      Loss directory t c info ((t.update heir.promote).update (c.unassign info).demote)

theorem Loss.has (h : Loss directory t c info u) : t.Has c := by
  cases h <;> assumption

theorem WellFormed.replacePrimary_loss (hw : t.WellFormed) (hc : t.Has c) (hp : c.primary = true)
    (ha : c.isActive = true) : Loss directory t c info (t.replacePrimary directory (c.unassign info)) := by
  unfold RoutingTable.replacePrimary
  dsimp only
  split
  case h_1 heir hf =>
    obtain ⟨hh, hs⟩ := hw.mem_copies_iff.1 (List.mem_of_find?_eq_some hf)
    exact .succeeded hc hp ha hh hs (List.find?_some hf)
  case h_2 hf =>
    refine .last hc hp ha ?_
    intro e he hs
    simpa [ShardCopy.isHeir] using List.find?_eq_none.1 hf e (hw.mem_copies_iff.2 ⟨he, hs⟩)

theorem Loss.wellFormed (h : Loss directory t c info u) (hw : t.WellFormed) : u.WellFormed := by
  cases h with
  | single | last => exact hw.update _
  | succeeded => exact (hw.update _).update _

theorem sameCopy_heir {heir : ShardCopy} (hc : t.Has c) (hp : c.primary = true) (hh : t.Has heir)
    (hi : heir.isHeir directory = true) : c.sameCopy heir = false := by
  by_contra hs
  rw [Bool.not_eq_false] at hs
  obtain rfl := hc.eq_of_sameCopy hh hs
  simp [ShardCopy.isHeir, hp] at hi

theorem Loss.others (h : Loss directory t c info u) (hw : t.WellFormed) (he : t.Has e) (hn : e.sameCopy c = false) :
    ∃ d, u.Has d ∧ e.Keeps directory d := by
  cases h with
  | single | last => exact ⟨e, he.update_of_ne hw hn, .inl rfl⟩
  | succeeded hc hp ha hh hs hi =>
      rename_i heir
      cases hsame : e.sameCopy heir with
      | true =>
          -- The heir is promoted first, and the demotion of the old primary passes it by.
          obtain rfl := he.eq_of_sameCopy hh hsame
          have hself : e.sameCopy e.promote = true := e.sameCopy_self
          have hpromoted : (t.update e.promote).Has e.promote := hh.update_self hw hself
          exact ⟨e.promote, hpromoted.update_of_ne (hw.update _) hn, .inr ⟨hi, rfl⟩⟩
      | false =>
          have hne : e.sameCopy heir.promote = false := hsame
          exact ⟨e, (he.update_of_ne hw hne).update_of_ne (hw.update _) hn, .inl rfl⟩

theorem Loss.origin (h : Loss directory t c info u) (hw : t.WellFormed) (hd : u.Has d) :
    d = c.unassign info ∨ d = (c.unassign info).demote ∧ c.primary = true ∧ c.isActive = true ∨
      ∃ e, t.Has e ∧ e.sameCopy c = false ∧ e.Keeps directory d := by
  have hself : c.sameCopy (c.unassign info) = true := c.sameCopy_self
  cases h with
  | single hc | last hc =>
      rcases (hc.update_iff hw hself).1 hd with rfl | ⟨he, hn⟩
      · exact .inl rfl
      · exact .inr (.inr ⟨d, he, hn, .inl rfl⟩)
  | succeeded hc hp ha hh hs hi =>
      rename_i heir
      have hne := sameCopy_heir hc hp hh hi
      have hc' : (t.update heir.promote).Has c := hc.update_of_ne hw hne
      have hdemote : c.sameCopy (c.unassign info).demote = true := hself
      have hpromote : heir.sameCopy heir.promote = true := heir.sameCopy_self
      rcases (hc'.update_iff (hw.update _) hdemote).1 hd with rfl | ⟨hd, hn⟩
      · exact .inr (.inl ⟨rfl, hp, ha⟩)
      · rcases (hh.update_iff hw hpromote).1 hd with rfl | ⟨hd, _⟩
        · exact .inr (.inr ⟨heir, hh, hn, .inr ⟨hi, rfl⟩⟩)
        · exact .inr (.inr ⟨d, hd, hn, .inl rfl⟩)

theorem Loss.self (h : Loss directory t c info u) (hw : t.WellFormed) :
    ∃ d, u.Has d ∧ (d = c.unassign info ∨ d = (c.unassign info).demote ∧ c.primary = true ∧ c.isActive = true) := by
  have hself : c.sameCopy (c.unassign info) = true := c.sameCopy_self
  cases h with
  | single hc | last hc => exact ⟨_, hc.update_self hw hself, .inl rfl⟩
  | succeeded hc hp ha hh hs hi =>
      rename_i heir
      have hne := sameCopy_heir hc hp hh hi
      have hc' : (t.update heir.promote).Has c := hc.update_of_ne hw hne
      have hdemote : c.sameCopy (c.unassign info).demote = true := hself
      exact ⟨_, hc'.update_self (hw.update _) hdemote, .inr ⟨rfl, hp, ha⟩⟩

theorem Loss.yields (h : Loss directory t c info u) (hw : t.WellFormed) : t.Yields u := by
  intro d hd
  rcases h.origin hw hd with rfl | ⟨rfl, _⟩ | ⟨e, he, _, rfl | ⟨_, rfl⟩⟩
  · exact .inr ⟨c, h.has, ShardCopy.yields_unassign info⟩
  · exact .inr ⟨c, h.has, (ShardCopy.yields_unassign info).trans ShardCopy.yields_demote⟩
  · exact .inr ⟨d, he, .refl d⟩
  · exact .inr ⟨e, he, ShardCopy.yields_promote⟩

/-- Whether a copy is on a node that is not in the directory, or moves to one. -/
def isAway (directory : Directory) (c : ShardCopy) : Bool :=
  isStranded directory c || losesTarget directory c

theorem isAway_of_keeps (h : c.Keeps directory d) : isAway directory d = isAway directory c := by
  simp only [isAway, isStranded, losesTarget, h.node, h.target]

theorem housed_iff : t.Housed directory ↔ ∀ c, t.Has c → isAway directory c = false := by
  refine forall₂_congr fun c _ => ?_
  simp only [isAway, isStranded, losesTarget, ShardCopy.places]
  cases c.node <;> cases c.target <;> simp

/-- A copy is taken off a node that left, or gives up the move to one. -/
inductive Settling (directory : Directory) (t : RoutingTable) (c : ShardCopy) : RoutingTable → Prop
  | cancel (hc : t.Has c) (hr : c.isRelocating = true) (hs : isStranded directory c = false) :
      Settling directory t c (t.update c.cancelRelocation)
  | loss {u : RoutingTable} (hs : isStranded directory c = true)
      (h : Loss directory t c ⟨.nodeLeft, c.failures, none⟩ u) : Settling directory t c u

namespace Settling

variable (h : Settling directory t c u) (hw : t.WellFormed)
include h hw

theorem wellFormed : u.WellFormed := by
  cases h with
  | cancel => exact hw.update _
  | loss _ h => exact h.wellFormed hw

theorem yields : t.Yields u := by
  cases h with
  | cancel hc hr => exact yields_update hw hc (ShardCopy.yields_cancelRelocation hr)
  | loss _ h => exact h.yields hw

theorem others (he : t.Has e) (hn : e.sameCopy c = false) : ∃ d, u.Has d ∧ e.Keeps directory d := by
  cases h with
  | cancel => exact ⟨e, he.update_of_ne hw hn, .inl rfl⟩
  | loss _ h => exact h.others hw he hn

theorem origin (hd : u.Has d) : isAway directory d = false ∨
    ∃ e, t.Has e ∧ e.sameCopy c = false ∧ e.Keeps directory d := by
  cases h with
  | cancel hc hr hs =>
      have hself : c.sameCopy c.cancelRelocation = true := c.sameCopy_self
      rcases (hc.update_iff hw hself).1 hd with rfl | ⟨hd, hn⟩
      · left
        simpa [isAway, losesTarget, ShardCopy.cancelRelocation, isStranded] using hs
      · exact .inr ⟨d, hd, hn, .inl rfl⟩
  | loss _ h =>
      rcases h.origin hw hd with rfl | ⟨rfl, _⟩ | hothers
      · exact .inl rfl
      · exact .inl rfl
      · exact .inr hothers

end Settling

theorem settleCopy_settling {x : ShardCopy} (hw : t.WellFormed) (hc : t.Has c) (hf : c.Fits)
    (hx : c.sameCopy x = true) (ha : isAway directory c = true) :
    Settling directory t c (t.settleCopy directory x) := by
  obtain ⟨hshard, hnumber⟩ := ShardCopy.sameCopy_iff.1 hx
  have hfound : t.find? x.shard x.number = some c := hshard ▸ hnumber ▸ hc
  rw [settleCopy, hfound]
  dsimp only
  split
  case isTrue hs =>
    rw [Bool.not_eq_true'] at hs
    refine .cancel hc ?_ hs
    have htarget : c.target.isSome = true := by
      rw [isAway, hs, Bool.false_or] at ha
      cases ht : c.target with
      | none => simp [losesTarget, ht] at ha
      | some => rfl
    rw [← hf.target, htarget]
  case isFalse hs =>
    refine .loss (by simpa using hs) ?_
    split
    case isTrue hp =>
      rw [Bool.and_eq_true] at hp
      exact hw.replacePrimary_loss hc hp.1 hp.2
    case isFalse hp =>
      refine .single hc ?_
      simpa using hp

/-- A pass that settles one copy after the other. -/
def Settles (directory : Directory) : RoutingTable → RoutingTable → Prop :=
  Relation.ReflTransGen fun t u => ∃ c, Settling directory t c u

section Turns

variable {x y : ShardCopy} {l : List ShardCopy} (h : Settling directory t c u) (hw : t.WellFormed)
  (hx : c.sameCopy x = true)
include h hw hx

theorem Settling.still_away (hn : x.sameCopy y = false)
    (hy : ∃ e, t.Has e ∧ e.sameCopy y = true ∧ isAway directory e = true) :
    ∃ d, u.Has d ∧ d.sameCopy y = true ∧ isAway directory d = true := by
  obtain ⟨e, he, hey, ha⟩ := hy
  have hec : e.sameCopy c = false := by
    rw [ShardCopy.sameCopy_congr hey, ShardCopy.sameCopy_comm, ShardCopy.sameCopy_congr hx]
    exact hn
  -- It may take the lead before its turn, but it does so where it is.
  obtain ⟨d, hd, hk⟩ := h.others hw he hec
  exact ⟨d, hd, ShardCopy.sameCopy_congr hk.sameCopy ▸ hey, (isAway_of_keeps hk).trans ha⟩

theorem Settling.still_listed (hl : ∀ e, t.Has e → isAway directory e = true → ∃ y ∈ x :: l, e.sameCopy y = true)
    (hd : u.Has d) (ha : isAway directory d = true) : ∃ y ∈ l, d.sameCopy y = true := by
  rcases h.origin hw hd with hback | ⟨e, he, hn, hk⟩
  · rw [hback] at ha
    cases ha
  · obtain ⟨y, hy, hey⟩ := hl e he ((isAway_of_keeps hk).symm.trans ha)
    rcases List.mem_cons.1 hy with rfl | hy
    · -- The turn of the settled copy is over.
      rw [ShardCopy.sameCopy_comm, ShardCopy.sameCopy_congr hx, ShardCopy.sameCopy_comm, hey] at hn
      cases hn
    · exact ⟨y, hy, ShardCopy.sameCopy_congr hk.sameCopy ▸ hey⟩

end Turns

/-- A pass over the copies that are away leaves none away. -/
theorem foldl_settleCopy {l : List ShardCopy} (hw : t.WellFormed) (hf : t.Fits)
    (hl : l.Pairwise fun x y => x.sameCopy y = false)
    (haway : ∀ x ∈ l, ∃ c, t.Has c ∧ c.sameCopy x = true ∧ isAway directory c = true)
    (hall : ∀ c, t.Has c → isAway directory c = true → ∃ x ∈ l, c.sameCopy x = true) :
    Settles directory t (l.foldl (settleCopy directory) t) ∧
      (l.foldl (settleCopy directory) t).Housed directory := by
  -- The copies that are away are those whose turn is still to come.
  induction l generalizing t with
  | nil =>
      refine ⟨.refl, housed_iff.2 fun c hc => ?_⟩
      by_contra ha
      obtain ⟨x, hx, _⟩ := hall c hc (by simpa using ha)
      cases hx
  | cons x l ih =>
      obtain ⟨hne, hl⟩ := List.pairwise_cons.1 hl
      obtain ⟨c, hc, hx, ha⟩ := haway x List.mem_cons_self
      have hs := settleCopy_settling hw hc (hf c hc) hx ha
      obtain ⟨hsteps, hhoused⟩ := ih (hs.wellFormed hw) ((hs.yields hw).fits hf) hl
        (fun y hy => hs.still_away hw hx (hne y hy) (haway y (List.mem_cons_of_mem x hy)))
        (fun _ hd hda => hs.still_listed hw hx hall hd hda)
      exact ⟨.head ⟨c, hs⟩ hsteps, hhoused⟩

/-- The table once every copy was taken off the nodes that left. -/
def settled (directory : Directory) (t : RoutingTable) : RoutingTable :=
  (t.toList.filter (isAway directory)).foldl (settleCopy directory) t

theorem settled_settling (directory : Directory) (hw : t.WellFormed) (hf : t.Fits) :
    Settles directory t (t.settled directory) ∧ (t.settled directory).Housed directory := by
  refine foldl_settleCopy hw hf (hw.pairwise_toList.filter _) ?_ ?_
  · intro c hc
    obtain ⟨hm, ha⟩ := List.mem_filter.1 hc
    exact ⟨c, hw.has_of_mem_toList hm, c.sameCopy_self, ha⟩
  · intro c hc ha
    exact ⟨c, List.mem_filter.2 ⟨hc.mem_toList, ha⟩, c.sameCopy_self⟩

theorem settled_eq (hw : t.WellFormed) (hh : t.Housed directory) : t.settled directory = t := by
  have hnone : t.toList.filter (isAway directory) = [] := by
    refine List.filter_eq_nil_iff.2 fun c hc => ?_
    simpa using housed_iff.1 hh c (hw.has_of_mem_toList hc)
  rw [settled, hnone, List.foldl_nil]

theorem settling_keeps {P : RoutingTable → Prop}
    (hk : ∀ t u c, t.WellFormed → t.Fits → Settling directory t c u → P t → P u)
    (h : Settles directory t u) (hw : t.WellFormed) (hf : t.Fits) (hP : P t) : P u := by
  have hkeeps : u.WellFormed ∧ u.Fits ∧ P u := by
    induction h with
    | refl => exact ⟨hw, hf, hP⟩
    | tail _ hs ih =>
        obtain ⟨c, hs⟩ := hs
        obtain ⟨hw, hf, hP⟩ := ih
        exact ⟨hs.wellFormed hw, (hs.yields hw).fits hf, hk _ _ c hw hf hs hP⟩
  exact hkeeps.2.2

theorem settled_wellFormed (hw : t.WellFormed) (hf : t.Fits) : (t.settled directory).WellFormed :=
  settling_keeps (fun _ _ _ hw _ hs _ => hs.wellFormed hw) (settled_settling _ hw hf).1 hw hf hw

theorem yields_settled (hw : t.WellFormed) (hf : t.Fits) : t.Yields (t.settled directory) :=
  settling_keeps (P := t.Yields) (fun _ _ _ hw _ hs hy => hy.trans (hs.yields hw)) (settled_settling _ hw hf).1 hw hf
    (.refl t)

end RoutingTable

end ClusterControl
