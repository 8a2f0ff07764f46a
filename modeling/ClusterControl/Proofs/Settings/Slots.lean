import ClusterControl.Proofs.Ordered.Dictionary
import ClusterControl.Settings.Update

/-!
The slots of settings, each of which has one value. A setting puts values into its own slots, which its text alone
determines, and leaves the other slots as they are. It looks at a slot that is not its own in two places only: each
watermark is checked against the other one.
-/

namespace ClusterControl

attribute [ext] NodeFilter AllocationFilters DiskSettings AllocationSettings Settings

theorem NodeFilter.get?_set {filter : NodeFilter} {key values label : String} :
    (filter.set key values).rules.get? label =
      if label = key then (if Text.commaList values = [] then none else some (Text.commaList values))
      else filter.rules.get? label := by
  rw [NodeFilter.set]
  split
  case h_1 he => rw [Dictionary.get?_erase, he, if_pos rfl]
  case h_2 hne => rw [Dictionary.get?_put, if_neg hne]

def AllocationFilters.ofKind (filters : AllocationFilters) : FilterKind → NodeFilter
  | .required => filters.required
  | .included => filters.included
  | .excluded => filters.excluded

theorem Settings.ofKind_setFilter {filters : AllocationFilters} {kind other : FilterKind} {label value : String} :
    (setFilter filters kind label value).ofKind other =
      if other = kind then (filters.ofKind other).set label value else filters.ofKind other := by
  cases kind <;> cases other <;> rfl

/-- A value that settings have. -/
inductive Slot
  | maxVotingExclusions
  | rebalanceEnable
  | enable
  | allowRebalance
  | concurrentRebalance
  | incomingRecoveries
  | outgoingRecoveries
  | initialPrimaries
  | diskThresholdEnabled
  | lowWatermark
  | highWatermark
  | awareness
  | totalShardsPerNode
  | allocator
  | patterns (kind : FilterKind) (label : String)
  | balance
  deriving DecidableEq

namespace Slot

def Value : Slot → Type
  | maxVotingExclusions | incomingRecoveries | outgoingRecoveries | initialPrimaries => Nat
  | rebalanceEnable => EnableRebalance
  | enable => EnableAllocation
  | allowRebalance => AllowRebalance
  | concurrentRebalance => Int
  | diskThresholdEnabled => Bool
  | lowWatermark | highWatermark => Float
  | awareness => List String
  | totalShardsPerNode => Option Nat
  | allocator => String
  | patterns _ _ => Option (List String)
  | balance => BalanceSettings

def get (s : Settings) : (slot : Slot) → slot.Value
  | maxVotingExclusions => s.maxVotingExclusions
  | rebalanceEnable => s.allocation.rebalanceEnable
  | enable => s.allocation.enable
  | allowRebalance => s.allocation.allowRebalance
  | concurrentRebalance => s.allocation.concurrentRebalance
  | incomingRecoveries => s.allocation.incomingRecoveries
  | outgoingRecoveries => s.allocation.outgoingRecoveries
  | initialPrimaries => s.allocation.initialPrimaries
  | diskThresholdEnabled => s.allocation.disk.thresholdEnabled
  | lowWatermark => s.allocation.disk.low
  | highWatermark => s.allocation.disk.high
  | awareness => s.allocation.awareness
  | totalShardsPerNode => s.allocation.totalShardsPerNode
  | allocator => s.allocation.allocator
  | patterns kind label => (s.allocation.filters.ofKind kind).rules.get? label
  | balance => s.allocation.balance

theorem ext {s next : Settings} (h : ∀ slot : Slot, slot.get s = slot.get next) : s = next := by
  have hrules : ∀ kind, s.allocation.filters.ofKind kind = next.allocation.filters.ofKind kind := by
    intro kind
    exact NodeFilter.ext (Dictionary.ext_get? fun label => h (.patterns kind label))
  have hfilters : s.allocation.filters = next.allocation.filters :=
    AllocationFilters.ext (hrules .required) (hrules .included) (hrules .excluded)
  have hdisk : s.allocation.disk = next.allocation.disk :=
    DiskSettings.ext (h .diskThresholdEnabled) (h .lowWatermark) (h .highWatermark)
  apply Settings.ext
  · exact h .maxVotingExclusions
  · exact AllocationSettings.ext (h .enable) (h .rebalanceEnable) (h .allowRebalance) (h .concurrentRebalance)
      (h .incomingRecoveries) (h .outgoingRecoveries) (h .initialPrimaries) hdisk (h .awareness) (h .totalShardsPerNode)
      hfilters (h .allocator) (h .balance)

end Slot

namespace Setting

/-- The slots that a setting puts its values into. -/
def slots : Setting → List Slot
  | maxVotingExclusions => [.maxVotingExclusions]
  | rebalanceEnable => [.rebalanceEnable]
  | enable => [.enable]
  | allowRebalance => [.allowRebalance]
  | concurrentRebalance => [.concurrentRebalance]
  | incomingRecoveries => [.incomingRecoveries]
  | outgoingRecoveries => [.outgoingRecoveries]
  | concurrentRecoveries => [.incomingRecoveries, .outgoingRecoveries]
  | initialPrimaries => [.initialPrimaries]
  | diskThresholdEnabled => [.diskThresholdEnabled]
  | lowWatermark => [.lowWatermark]
  | highWatermark => [.highWatermark]
  | awareness => [.awareness]
  | totalShardsPerNode => [.totalShardsPerNode]
  | allocator => [.allocator]
  | filter kind label => [.patterns kind label]

/-- The slots of others that a setting looks at. -/
def watched : Setting → List Slot
  | lowWatermark => [.highWatermark]
  | highWatermark => [.lowWatermark]
  | _ => []

/-- The values that a setting puts do not depend on the settings that it puts them into. -/
structure Puts (setting : Setting) (put : Settings → Settings) : Prop where
  frame : ∀ s : Settings, ∀ slot : Slot, slot ∉ setting.slots → slot.get (put s) = slot.get s
  fixed : ∀ s other : Settings, ∀ slot ∈ setting.slots, slot.get (put s) = slot.get (put other)

theorem Puts.single {setting : Setting} {put : Settings → Settings} {slot : Slot} (hs : setting.slots = [slot])
    (hframe : ∀ s : Settings, ∀ other : Slot, other ≠ slot → other.get (put s) = other.get s)
    (hfixed : ∀ s other : Settings, slot.get (put s) = slot.get (put other)) : setting.Puts put := by
  refine ⟨fun s other hn => hframe s other ?_, fun s other own ho => ?_⟩
  · rintro rfl
    exact hn (hs ▸ List.mem_cons_self)
  · rw [hs, List.mem_singleton] at ho
    subst ho
    exact hfixed s other

/-- What a text is to a setting: it cannot be read, or it is checked against what the setting looks at, and then the
setting puts its values. -/
inductive Takes (setting : Setting) (value : String) : Prop
  | unreadable (fault : String × ValueFault) (h : ∀ s : Settings, s.write setting value = .error fault)
  | checked (fault? : Settings → Option (String × ValueFault)) (put : Settings → Settings) (hp : setting.Puts put)
      (hf : ∀ s other : Settings, (∀ slot ∈ setting.watched, slot.get s = slot.get other) → fault? s = fault? other)
      (h : ∀ s : Settings, s.write setting value = (fault? s).elim (.ok (put s)) .error)

section Takes

variable {setting : Setting} {value : String} {α : Type} {read : Except (String × ValueFault) α}
  {put : α → Settings → Settings}

theorem takes_of_read (hp : ∀ a, setting.Puts (put a))
    (h : ∀ s : Settings, s.write setting value = do return put (← read) s) : setting.Takes value := by
  cases read with
  | error fault => exact .unreadable fault h
  | ok a => exact .checked (fun _ => none) (put a) (hp a) (fun _ _ _ => rfl) h

theorem takes_of_check {bad : α → Settings → Prop} [∀ a s, Decidable (bad a s)] {fault : String × ValueFault}
    (hp : ∀ a, setting.Puts (put a))
    (hb : ∀ a, ∀ s other : Settings, (∀ slot ∈ setting.watched, slot.get s = slot.get other) → (bad a s ↔ bad a other))
    (h : ∀ s : Settings, s.write setting value = do
      let a ← read
      if bad a s then throw fault
      return put a s) : setting.Takes value := by
  cases read with
  | error fault => exact .unreadable fault h
  | ok a =>
      refine .checked (fun s => if bad a s then some fault else none) (put a) (hp a) ?_ ?_
      · intro s other hs
        simp only [hb a s other hs]
      · intro s
        rw [h]
        by_cases hbad : bad a s
        · simp [hbad, bind, Except.bind, throw, throwThe, MonadExceptOf.throw]
        · simp [hbad, bind, Except.bind, pure, Except.pure]

theorem takes_of_put {put : Settings → Settings} (hp : setting.Puts put)
    (h : ∀ s : Settings, s.write setting value = .ok (put s)) : setting.Takes value :=
  .checked (fun _ => none) put hp (fun _ _ _ => rfl) h

theorem takes (setting : Setting) (value : String) : setting.Takes value := by
  cases setting
  case lowWatermark =>
    refine takes_of_check (fun low => .single rfl (fun s slot hne => ?_) fun _ _ => rfl) (fun low s other hs => ?_)
      fun _ => rfl
    · cases slot <;> first | rfl | exact absurd rfl hne
    · have hhigh : s.allocation.disk.high = other.allocation.disk.high := hs .highWatermark List.mem_cons_self
      rw [hhigh]
  case highWatermark =>
    refine takes_of_check (fun high => .single rfl (fun s slot hne => ?_) fun _ _ => rfl) (fun high s other hs => ?_)
      fun _ => rfl
    · cases slot <;> first | rfl | exact absurd rfl hne
    · have hlow : s.allocation.disk.low = other.allocation.disk.low := hs .lowWatermark List.mem_cons_self
      rw [hlow]
  case concurrentRecoveries =>
    refine takes_of_read (fun limit => ⟨fun s slot hn => ?_, fun s other slot hs => ?_⟩) fun _ => rfl
    · cases slot <;> first | rfl | simp [slots] at hn
    · simp only [slots, List.mem_cons, List.not_mem_nil, or_false] at hs
      rcases hs with rfl | rfl <;> rfl
  case filter kind label =>
    refine takes_of_put (.single rfl (fun s slot hne => ?_) fun s other => ?_) fun _ => rfl
    · cases slot
      case patterns k l =>
        simp only [Slot.get, Settings.ofKind_setFilter]
        split
        case isTrue hk =>
          have hl : l ≠ label := by
            rintro rfl
            exact hne (hk ▸ rfl)
          rw [NodeFilter.get?_set, if_neg hl]
        case isFalse => rfl
      all_goals rfl
    · simp only [Slot.get, Settings.ofKind_setFilter, NodeFilter.get?_set, if_true]
      rfl
  case awareness =>
    refine takes_of_put (.single rfl (fun s slot hne => ?_) fun _ _ => rfl) fun _ => rfl
    cases slot <;> first | rfl | exact absurd rfl hne
  -- the others read a text and put what they read into one slot
  all_goals
    refine takes_of_read (fun a => .single rfl (fun s slot hne => ?_) fun _ _ => rfl) fun _ => rfl
    cases slot <;> first | rfl | exact absurd rfl hne

end Takes

end Setting

end ClusterControl
