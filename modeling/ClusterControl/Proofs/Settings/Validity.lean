import ClusterControl.Proofs.Ordered.Sets
import ClusterControl.Proofs.Settings.InPlace
import ClusterControl.Proofs.Success
import ClusterControl.Proofs.Text.Items

/-!
Well-formed settings. Every update that is accepted keeps them so, and shared settings are what was
announced last.
-/

namespace ClusterControl

/-- A share of a disk in percent. -/
def IsPercentage (x : Float) : Prop :=
  0 ≤ x ∧ x ≤ 100

structure DiskSettings.WellFormed (disk : DiskSettings) : Prop where
  low : IsPercentage disk.low
  high : IsPercentage disk.high
  ordered : ¬ disk.high < disk.low

/-- Each rule is about an attribute and has patterns to compare its value with. -/
structure NodeFilter.WellFormed (filter : NodeFilter) : Prop where
  labelled : ∀ rule ∈ filter.rules, rule.1 ≠ ""
  patterns : ∀ rule ∈ filter.rules, rule.2 ≠ []
  items : ∀ rule ∈ filter.rules, ∀ pattern ∈ rule.2, Text.IsItem pattern

structure AllocationFilters.WellFormed (filters : AllocationFilters) : Prop where
  required : filters.required.WellFormed
  included : filters.included.WellFormed
  excluded : filters.excluded.WellFormed

/-- The name of an allocator. -/
structure IsAllocatorName (s : String) : Prop where
  nonempty : s ≠ ""
  trimmed : Text.IsTrimmed s.toList

structure Settings.WellFormed (s : Settings) : Prop where
  concurrentRebalance : -1 ≤ s.allocation.concurrentRebalance
  disk : s.allocation.disk.WellFormed
  allocator : IsAllocatorName s.allocation.allocator
  awareness : ∀ label ∈ s.allocation.awareness, Text.IsItem label
  filters : s.allocation.filters.WellFormed

namespace NodeFilter

variable {filter : NodeFilter} {key values : String}

theorem wellFormed_empty : empty.WellFormed :=
  ⟨by simp [empty], by simp [empty], by simp [empty]⟩

theorem WellFormed.set (h : filter.WellFormed) (hk : key ≠ "") : (filter.set key values).WellFormed := by
  unfold NodeFilter.set
  split
  case h_1 =>
    refine ⟨?_, ?_, ?_⟩
    · exact fun rule hr => h.labelled rule (SortedBy.mem_erase.1 hr).1
    · exact fun rule hr => h.patterns rule (SortedBy.mem_erase.1 hr).1
    · exact fun rule hr => h.items rule (SortedBy.mem_erase.1 hr).1
  case h_2 patterns hne =>
    have hput : ∀ rule ∈ filter.rules.put key (Text.commaList values),
        rule = (key, Text.commaList values) ∨ rule ∈ filter.rules := by
      intro rule hr
      exact (SortedBy.mem_insert.1 hr).imp_right And.left
    refine ⟨?_, ?_, ?_⟩
    · intro rule hr
      rcases hput rule hr with rfl | hr
      · exact hk
      · exact h.labelled rule hr
    · intro rule hr
      rcases hput rule hr with rfl | hr
      · exact hne
      · exact h.patterns rule hr
    · intro rule hr
      rcases hput rule hr with rfl | hr
      · exact fun _ hp => Text.isItem_of_mem_commaList hp
      · exact h.items rule hr

end NodeFilter

namespace Settings

variable {s next : Settings} {setting : Setting} {key value : String}

theorem isAllocatorName_balanced : IsAllocatorName balancedAllocator := by
  refine ⟨by decide, ?_, ?_⟩
  · rintro c ⟨⟩
    decide
  · rintro c ⟨⟩
    decide

theorem wellFormed_initial : initial.WellFormed where
  concurrentRebalance := by decide
  disk := ⟨⟨by decide, by decide⟩, ⟨by decide, by decide⟩, by decide⟩
  allocator := isAllocatorName_balanced
  awareness := nofun
  filters := ⟨NodeFilter.wellFormed_empty, NodeFilter.wellFormed_empty, NodeFilter.wellFormed_empty⟩

theorem readConcurrency_ge {limit : Int} (h : readConcurrency value = .ok limit) : -1 ≤ limit := by
  obtain ⟨_, _, h⟩ := bind_ok h
  split at h
  case isTrue => cases h
  case isFalse hge =>
    cases h
    exact Int.not_lt.1 hge

theorem readPercentage_ok {x : Float} (h : readPercentage value = .ok x) : IsPercentage x := by
  unfold readPercentage at h
  split at h
  case h_1 => cases h
  case h_2 =>
    split at h
    case isTrue hx =>
      cases h
      exact hx
    case isFalse => cases h

theorem readAllocator_ok {name : String} (h : readAllocator value = .ok name) : IsAllocatorName name := by
  unfold readAllocator at h
  split at h
  case isTrue => cases h
  case isFalse hn =>
    cases h
    refine ⟨by simpa using hn, ?_⟩
    rw [String.toList_ofList]
    exact Text.isTrimmed_trim _

theorem wellFormed_setFilter {filters : AllocationFilters} {kind : FilterKind} {label : String}
    (h : filters.WellFormed) (hl : label ≠ "") : (setFilter filters kind label value).WellFormed := by
  cases kind with
  | required => exact ⟨h.required.set hl, h.included, h.excluded⟩
  | included => exact ⟨h.required, h.included.set hl, h.excluded⟩
  | excluded => exact ⟨h.required, h.included, h.excluded.set hl⟩

/-- A key never names a filter without an attribute. -/
theorem label_of_ofKey? {kind : FilterKind} {label : String} (h : Setting.ofKey? key = some (.filter kind label)) :
    label ≠ "" := by
  rcases (Setting.ofKey?_eq_some h).2 with hm | ⟨_, _, he, hl⟩
  · simp [Setting.single] at hm
  · cases he
    exact hl

theorem WellFormed.write (hs : s.WellFormed) (hl : ∀ kind label, setting = .filter kind label → label ≠ "")
    (h : s.write setting value = .ok next) : next.WellFormed := by
  cases setting
  case concurrentRebalance =>
    obtain ⟨limit, hr, h⟩ := bind_ok h
    cases h
    exact { hs with concurrentRebalance := readConcurrency_ge (ok_of_mapError hr) }
  -- each watermark is checked against the other one as it stands
  case lowWatermark =>
    obtain ⟨low, hr, h⟩ := bind_ok h
    dsimp only at h
    split at h
    case isTrue => cases h
    case isFalse ho =>
      cases h
      exact { hs with disk := ⟨readPercentage_ok hr, hs.disk.high, ho⟩ }
  case highWatermark =>
    obtain ⟨high, hr, h⟩ := bind_ok h
    dsimp only at h
    split at h
    case isTrue => cases h
    case isFalse ho =>
      cases h
      exact { hs with disk := ⟨hs.disk.low, readPercentage_ok hr, ho⟩ }
  case diskThresholdEnabled =>
    obtain ⟨enabled, _, h⟩ := bind_ok h
    cases h
    exact { hs with disk := ⟨hs.disk.low, hs.disk.high, hs.disk.ordered⟩ }
  case awareness =>
    cases h
    exact { hs with awareness := fun _ ha => Text.isItem_of_mem_commaList ha }
  case allocator =>
    obtain ⟨name, hr, h⟩ := bind_ok h
    cases h
    exact { hs with allocator := readAllocator_ok (ok_of_mapError hr) }
  case filter kind label =>
    cases h
    exact { hs with filters := wellFormed_setFilter hs.filters (hl kind label rfl) }
  all_goals
    obtain ⟨_, _, h⟩ := bind_ok h
    cases h
    exact { hs with }

theorem WellFormed.update (hs : s.WellFormed) (h : s.update key value = .ok next) : next.WellFormed := by
  unfold Settings.update at h
  split at h
  case h_1 => cases h
  case h_2 setting hk =>
    refine hs.write ?_ (ok_of_mapError h)
    rintro kind label rfl
    exact label_of_ofKey? hk

theorem wellFormed_applyAll (updates : List (String × String)) : (initial.applyAll updates).WellFormed :=
  applyAll_keeps (fun _ _ _ _ h hs => hs.update h) wellFormed_initial updates

end Settings

namespace SettingsBoard

variable {board next : SettingsBoard} {key value : String}

theorem update_announced (h : board.update key value = .ok next) (hb : board.announced = board.current) :
    next.announced = next.current := by
  obtain ⟨settings, _, h⟩ := bind_ok h
  split at h
  case isTrue =>
    cases h
    exact hb
  case isFalse =>
    cases h
    rfl

theorem announced_applyAll (posted : Settings) (updates : List (String × String)) :
    ((post posted).applyAll updates).announced = ((post posted).applyAll updates).current :=
  applyAll_keeps (P := fun board => board.announced = board.current)
    (fun _ _ _ _ h hb => update_announced h hb) rfl updates

end SettingsBoard

/-- However settings are updated from the initial ones, they are well-formed, and a refused update leaves
them as they were. Shared settings are always those that were announced last, and an update is announced
exactly if it is accepted and makes a difference. -/
theorem updates_valid_and_announced (updates : List (String × String)) (key value : String) (posted : Settings) :
    let s := Settings.initial.applyAll updates
    let board := (SettingsBoard.post posted).applyAll updates
    s.WellFormed ∧ s.Updates key value ((Settings.apply key value).run s) ∧
      board.announced = board.current ∧ board.Updates key value ((SettingsBoard.apply key value).run board) := by
  intro s board
  exact ⟨Settings.wellFormed_applyAll updates, s.updates_apply key value,
    SettingsBoard.announced_applyAll posted updates, board.updates_apply key value⟩

end ClusterControl
