import ClusterControl.Proofs.Allocation.Continuity
import ClusterControl.Settings.Update

/-!
Reports of starts as a whole. What comes of them depends on which copies they name, wherever a report stands and
however often it is made. The reroute behind them needs an allocator, and fails where the settings name none.
-/

namespace ClusterControl

/-- What a report knows a copy by. -/
def ShardCopy.name (c : ShardCopy) : ShardId × Nat :=
  (c.shard, c.number)

/-- The reports name the same copies. -/
def NameAlike (started other : List ShardCopy) : Prop :=
  ∀ name, name ∈ started.map ShardCopy.name ↔ name ∈ other.map ShardCopy.name

namespace NameAlike

variable {started other : List ShardCopy} (h : NameAlike started other)
include h

theorem symm : NameAlike other started :=
  fun name => (h name).symm

theorem any_imp {c : ShardCopy} (hc : started.any (·.sameCopy c) = true) : other.any (·.sameCopy c) = true := by
  obtain ⟨x, hx, hs⟩ := List.any_eq_true.1 hc
  obtain ⟨y, hy, hn⟩ := List.mem_map.1 ((h x.name).1 (List.mem_map_of_mem hx))
  have hyx : y.sameCopy x = true := ShardCopy.sameCopy_iff.2 (Prod.mk.inj hn)
  exact List.any_eq_true.2 ⟨y, hy, ShardCopy.sameCopy_congr hyx ▸ hs⟩

theorem afterStarts : ShardCopy.afterStarts started = ShardCopy.afterStarts other := by
  funext c
  have hany : started.any (·.sameCopy c) = other.any (·.sameCopy c) := Bool.eq_iff_iff.2 ⟨h.any_imp, h.symm.any_imp⟩
  rw [ShardCopy.afterStarts, ShardCopy.afterStarts, hany]

theorem unknown_imp {t : RoutingTable} (hx : ∃ x ∈ started, t.find? x.shard x.number = none) :
    ∃ x ∈ other, t.find? x.shard x.number = none := by
  obtain ⟨x, hx, hn⟩ := hx
  obtain ⟨y, hy, he⟩ := List.mem_map.1 ((h x.name).1 (List.mem_map_of_mem hx))
  obtain ⟨hshard, hnumber⟩ := Prod.mk.inj he
  exact ⟨y, hy, by rw [hshard, hnumber, hn]⟩

end NameAlike

/-- The state with the named copies started, before it is rerouted. -/
def ClusterState.withStarts (s : ClusterState) (started : List ShardCopy) : ClusterState :=
  { s with routing := s.routing.mapCopies (ShardCopy.afterStarts started) }

namespace AllocationService

variable {service : AllocationService} {settings : Settings} {s : ClusterState} {started other : List ShardCopy}

theorem reroute_cases (service : AllocationService) (settings : Settings) (s : ClusterState) :
    (∃ allocator rerouted, service.allocators.get settings.allocation.allocator = .ok allocator ∧
      service.reroute settings s = .ok rerouted) ∨
    service.allocators.get settings.allocation.allocator = .error (.unknownAllocator settings.allocation.allocator) ∧
      service.reroute settings s = .error (.unknownAllocator settings.allocation.allocator) := by
  cases he : service.allocators.entries.get? settings.allocation.allocator with
  | none =>
      have hget : service.allocators.get settings.allocation.allocator =
          .error (.unknownAllocator settings.allocation.allocator) := by rw [AllocatorRegistry.get, he]
      exact .inr ⟨hget, by rw [reroute, hget]; rfl⟩
  | some allocator =>
      have hget : service.allocators.get settings.allocation.allocator = .ok allocator := by
        rw [AllocatorRegistry.get, he]
      exact .inl ⟨allocator, _, hget, reroute_eq hget⟩

theorem applyStarted_eq (hw : s.routing.WellFormed) (hall : ∀ x ∈ started, s.routing.find? x.shard x.number ≠ none) :
    service.applyStarted settings s started =
      (service.reroute settings (s.withStarts started)).map (·.stateFrom (s.withStarts started)) := by
  rcases applyStarts_cases hw with ⟨x, hx, hn, _⟩ | ⟨_, hok⟩
  · exact absurd hn (hall x hx)
  · rw [applyStarted, hok]
    rfl

theorem applyStarted_cases (service : AllocationService) (settings : Settings) (hw : s.routing.WellFormed)
    (hall : ∀ x ∈ started, s.routing.find? x.shard x.number ≠ none) :
    (∃ allocator next, service.allocators.get settings.allocation.allocator = .ok allocator ∧
      service.applyStarted settings s started = .ok next) ∨
    service.allocators.get settings.allocation.allocator = .error (.unknownAllocator settings.allocation.allocator) ∧
      service.applyStarted settings s started = .error (.unknownAllocator settings.allocation.allocator) := by
  rw [applyStarted_eq hw hall]
  rcases reroute_cases service settings (s.withStarts started) with ⟨allocator, rerouted, hget, hr⟩ | ⟨hget, hr⟩
  · exact .inl ⟨allocator, _, hget, by rw [hr]; rfl⟩
  · exact .inr ⟨hget, by rw [hr]; rfl⟩

theorem applyStarted_unknown_iff (hw : s.routing.WellFormed) :
    (∃ copy, service.applyStarted settings s started = .error (.unknownShard copy)) ↔
      ∃ x ∈ started, s.routing.find? x.shard x.number = none := by
  constructor
  · rintro ⟨copy, he⟩
    by_contra hall
    push Not at hall
    have hcases := applyStarted_cases service settings hw hall
    rw [he] at hcases
    rcases hcases with ⟨_, _, _, hok⟩ | ⟨_, hr⟩
    · cases hok
    · cases hr
  · rintro ⟨x, hx, hn⟩
    rcases applyStarts_cases hw with ⟨y, _, _, he⟩ | ⟨hall, _⟩
    · exact ⟨y.render, by rw [applyStarted, he]; rfl⟩
    · exact absurd hn (hall x hx)

theorem applyStarted_congr (hw : s.routing.WellFormed) (h : NameAlike started other)
    (hall : ∀ x ∈ started, s.routing.find? x.shard x.number ≠ none) :
    service.applyStarted settings s started = service.applyStarted settings s other := by
  have hall' : ∀ y ∈ other, s.routing.find? y.shard y.number ≠ none := by
    intro y hy hn
    obtain ⟨x, hx, hn⟩ := h.symm.unknown_imp ⟨y, hy, hn⟩
    exact hall x hx hn
  rw [applyStarted_eq hw hall, applyStarted_eq hw hall', ClusterState.withStarts, h.afterStarts]
  rfl

/-- Both lists leave the same state, unless both name a copy that is not there. -/
def StartsCollapse (service : AllocationService) (settings : Settings) : Prop :=
  ∀ (s : ClusterState) (started other : List ShardCopy), s.routing.WellFormed → NameAlike started other →
    ((∃ copy, service.applyStarted settings s started = .error (.unknownShard copy)) ↔
      ∃ copy, service.applyStarted settings s other = .error (.unknownShard copy)) ∧
    ((∃ copy, service.applyStarted settings s started = .error (.unknownShard copy)) ∨
      ∃ next, service.applyStarted settings s started = .ok next ∧ service.applyStarted settings s other = .ok next)

/-- Settings may name an allocator that the service does not have, and then reports do not leave a state. -/
theorem unknown_allocator_starts_nothing :
    ∃ settings, Settings.initial.update "cluster.routing.allocation.type" "nope" = .ok settings ∧
      ¬ StartsCollapse builtin settings := by
  obtain ⟨settings, hu, hname⟩ := ok_of_map (f := fun next => next.allocation.allocator) (b := "nope")
    (x := Settings.initial.update "cluster.routing.allocation.type" "nope") (by decide +kernel)
  refine ⟨settings, hu, fun h => ?_⟩
  have hget : ∀ allocator, builtin.allocators.get settings.allocation.allocator ≠ .ok allocator := by
    rw [hname]
    nofun
  rcases reroute_cases builtin settings .initial with ⟨allocator, _, hok, _⟩ | ⟨_, hr⟩
  · exact hget allocator hok
  · have happly : builtin.applyStarted settings .initial [] = .error (.unknownAllocator settings.allocation.allocator) := by
      simp only [applyStarted, List.foldlM_nil, bind, Except.bind, pure, Except.pure, hr]
    obtain ⟨_, ⟨_, he⟩ | ⟨_, he, _⟩⟩ := h .initial [] [] RoutingTable.wellFormed_empty fun _ => Iff.rfl
    · rw [happly] at he
      cases he
    · rw [happly] at he
      cases he

/-- Reports that name the same copies are refused alike: for a copy that is not there whichever list names it, or for
an allocator that is not there. Otherwise they leave the same state. -/
theorem start_reports_collapse (hw : s.routing.WellFormed) (h : NameAlike started other) :
    ((∃ copy, service.applyStarted settings s started = .error (.unknownShard copy)) ↔
      ∃ copy, service.applyStarted settings s other = .error (.unknownShard copy)) ∧
    ((∃ copy, service.applyStarted settings s started = .error (.unknownShard copy)) ∨
      (∃ allocator next, service.allocators.get settings.allocation.allocator = .ok allocator ∧
        service.applyStarted settings s started = .ok next ∧ service.applyStarted settings s other = .ok next) ∨
      service.allocators.get settings.allocation.allocator = .error (.unknownAllocator settings.allocation.allocator) ∧
        service.applyStarted settings s started = .error (.unknownAllocator settings.allocation.allocator) ∧
        service.applyStarted settings s other = .error (.unknownAllocator settings.allocation.allocator)) := by
  refine ⟨?_, ?_⟩
  · rw [applyStarted_unknown_iff hw, applyStarted_unknown_iff hw]
    exact ⟨h.unknown_imp, h.symm.unknown_imp⟩
  · by_cases hu : ∃ x ∈ started, s.routing.find? x.shard x.number = none
    · exact .inl ((applyStarted_unknown_iff hw).2 hu)
    · have hall : ∀ x ∈ started, s.routing.find? x.shard x.number ≠ none := by
        intro x hx hn
        exact hu ⟨x, hx, hn⟩
      rw [← applyStarted_congr hw h hall]
      rcases applyStarted_cases service settings hw hall with ⟨allocator, next, hget, hok⟩ | ⟨hget, hr⟩
      · exact .inr (.inl ⟨allocator, next, hget, hok, hok⟩)
      · exact .inr (.inr ⟨hget, hr, hr⟩)

open ClusterState in
theorem repeated_starts_collapse :
    logsUnsettled.routing.WellFormed ∧
      NameAlike [settlingIn, movingOver, settlingIn] [.placeholder ⟨"logs", 1⟩ 1, .placeholder ⟨"logs", 0⟩ 1] ∧
      ∃ next, builtin.applyStarted .initial logsUnsettled [settlingIn, movingOver, settlingIn] = .ok next ∧
        builtin.applyStarted .initial logsUnsettled
          [.placeholder ⟨"logs", 1⟩ 1, .placeholder ⟨"logs", 0⟩ 1] = .ok next := by
  have hw : logsUnsettled.routing.WellFormed := unsettled_built.wellFormed
  have h : NameAlike [settlingIn, movingOver, settlingIn] [.placeholder ⟨"logs", 1⟩ 1, .placeholder ⟨"logs", 0⟩ 1] := by
    intro name
    simp [ShardCopy.name, settlingIn, movingOver, ShardCopy.placeholder, ShardCopy.fresh, or_comm]
  refine ⟨hw, h, ?_⟩
  rcases (start_reports_collapse hw h).2 with hu | ⟨_, next, _, hs, ho⟩ | ⟨hget, _⟩
  · have hfound : ∀ x ∈ [settlingIn, movingOver, settlingIn], logsUnsettled.routing.find? x.shard x.number ≠ none := by
      decide
    obtain ⟨x, hx, hn⟩ := (applyStarted_unknown_iff hw).1 hu
    exact absurd hn (hfound x hx)
  · exact ⟨next, hs, ho⟩
  · cases hget

end AllocationService

end ClusterControl
