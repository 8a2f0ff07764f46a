import ClusterControl.Proofs.Settings.Slots
import ClusterControl.Proofs.Settings.Validity

/-!
Updates of different settings do not meddle with each other: the one is answered the same before and after
the other, and both leave the same settings in either order. Settings that look at each other's slots, or
put values into the same ones, are tied, and nothing is said of them. An update that is accepted is
accepted again, and then nothing is left to change or to announce.
-/

namespace ClusterControl

/-- The setting that a slot is there for. The weights of balancing are not up to settings. -/
def Slot.owner : Slot → Option Setting
  | maxVotingExclusions => some .maxVotingExclusions
  | rebalanceEnable => some .rebalanceEnable
  | enable => some .enable
  | allowRebalance => some .allowRebalance
  | concurrentRebalance => some .concurrentRebalance
  | incomingRecoveries => some .incomingRecoveries
  | outgoingRecoveries => some .outgoingRecoveries
  | initialPrimaries => some .initialPrimaries
  | diskThresholdEnabled => some .diskThresholdEnabled
  | lowWatermark => some .lowWatermark
  | highWatermark => some .highWatermark
  | awareness => some .awareness
  | totalShardsPerNode => some .totalShardsPerNode
  | allocator => some .allocator
  | patterns kind label => some (.filter kind label)
  | balance => none

namespace Setting

/-- The watermarks are checked against each other, and one limit of recoveries stands for two. -/
def tied : List (Setting × Setting) :=
  [(lowWatermark, highWatermark), (concurrentRecoveries, incomingRecoveries),
    (concurrentRecoveries, outgoingRecoveries)]

def tiedKeys : List (String × String) :=
  tied.map fun (a, b) => (a.key, b.key)

/-- Neither setting puts values where the other one looks or puts its own. -/
structure Apart (a b : Setting) : Prop where
  slots : ∀ slot ∈ a.slots, slot ∉ b.slots
  watched : ∀ slot ∈ a.watched, slot ∉ b.slots
  watches : ∀ slot ∈ b.watched, slot ∉ a.slots

variable {a b c : Setting} {slot : Slot}

theorem tied_unique (ha : (a, c) ∈ tied) (hb : (b, c) ∈ tied) : a = b := by
  simp only [tied, List.mem_cons, Prod.mk.injEq, List.not_mem_nil, or_false] at ha hb
  grind

theorem not_tied_of_tied (h : (c, a) ∈ tied) : (b, c) ∉ tied := by
  simp only [tied, List.mem_cons, Prod.mk.injEq, List.not_mem_nil, or_false] at h ⊢
  grind

theorem owner_of_mem_slots (h : slot ∈ a.slots) : ∃ c, slot.owner = some c ∧ (a = c ∨ (a, c) ∈ tied) := by
  cases a
  case concurrentRecoveries =>
    simp only [slots, List.mem_cons, List.not_mem_nil, or_false] at h
    rcases h with rfl | rfl
    · exact ⟨incomingRecoveries, rfl, .inr (by simp [tied])⟩
    · exact ⟨outgoingRecoveries, rfl, .inr (by simp [tied])⟩
  all_goals
    cases List.mem_singleton.1 h
    exact ⟨_, rfl, .inl rfl⟩

theorem owner_of_mem_watched (h : slot ∈ a.watched) :
    ∃ c, slot.owner = some c ∧ ((a, c) ∈ tied ∨ (c, a) ∈ tied) := by
  cases a
  case lowWatermark =>
    cases List.mem_singleton.1 h
    exact ⟨highWatermark, rfl, .inl List.mem_cons_self⟩
  case highWatermark =>
    cases List.mem_singleton.1 h
    exact ⟨lowWatermark, rfl, .inr List.mem_cons_self⟩
  all_goals cases h

theorem not_mem_slots_of_watched (h : slot ∈ a.watched) : slot ∉ a.slots := by
  cases a
  case lowWatermark | highWatermark =>
    cases List.mem_singleton.1 h
    simp [slots]
  all_goals cases h

theorem balance_not_mem_slots : Slot.balance ∉ a.slots := by
  intro h
  obtain ⟨_, ho, _⟩ := owner_of_mem_slots h
  cases ho

theorem owner_of_touched (h : slot ∈ a.slots ∨ slot ∈ a.watched) :
    ∃ c, slot.owner = some c ∧ (a = c ∨ (a, c) ∈ tied ∨ (c, a) ∈ tied) := by
  rcases h with h | h
  · obtain ⟨c, hc, ha⟩ := owner_of_mem_slots h
    exact ⟨c, hc, ha.imp_right .inl⟩
  · obtain ⟨c, hc, ha⟩ := owner_of_mem_watched h
    exact ⟨c, hc, .inr ha⟩

theorem not_mem_slots_of_touched (hne : a ≠ b) (hab : (a, b) ∉ tied) (hba : (b, a) ∉ tied)
    (h : slot ∈ a.slots ∨ slot ∈ a.watched) : slot ∉ b.slots := by
  intro hb
  obtain ⟨c, hc, ha⟩ := owner_of_touched h
  obtain ⟨d, hd, hb⟩ := owner_of_mem_slots hb
  obtain rfl : c = d := Option.some.inj (hc.symm.trans hd)
  rcases hb with rfl | hb
  · rcases ha with rfl | ha | ha
    · exact hne rfl
    · exact hab ha
    · exact hba ha
  · rcases ha with rfl | ha | ha
    · exact hba hb
    · exact hne (tied_unique ha hb)
    · exact not_tied_of_tied ha hb

theorem apart_of_not_tied (hne : a ≠ b) (hab : (a, b) ∉ tied) (hba : (b, a) ∉ tied) : Apart a b where
  slots _ h := not_mem_slots_of_touched hne hab hba (.inl h)
  watched _ h := not_mem_slots_of_touched hne hab hba (.inr h)
  watches _ h := not_mem_slots_of_touched hne.symm hba hab (.inr h)

theorem apart_of_keys {key other : String} (hne : key ≠ other) (h : (key, other) ∉ tiedKeys)
    (h' : (other, key) ∉ tiedKeys) (ha : ofKey? key = some a) (hb : ofKey? other = some b) : Apart a b := by
  obtain rfl := (ofKey?_eq_some ha).1
  obtain rfl := (ofKey?_eq_some hb).1
  refine apart_of_not_tied ?_ ?_ ?_
  · rintro rfl
    exact hne rfl
  · exact fun ht => h (List.mem_map_of_mem ht)
  · exact fun ht => h' (List.mem_map_of_mem ht)

end Setting

namespace Settings

section Write

/-- The settings as a value leaves them, accepted or refused. -/
def written (s : Settings) (setting : Setting) (value : String) : Settings :=
  (s.write setting value).toOption.getD s

variable {s other next : Settings} {setting a b : Setting} {value text : String} {slot : Slot}

theorem get_written_of_not_mem (hn : slot ∉ setting.slots) :
    slot.get (s.written setting value) = slot.get s := by
  cases setting.takes value with
  | unreadable fault h =>
      rw [written, h]
      rfl
  | checked fault? put hp hf h =>
      rw [written, h]
      cases fault? s with
      | none => exact hp.frame s slot hn
      | some => rfl

theorem write_congr (hw : ∀ slot ∈ setting.watched, slot.get s = slot.get other) :
    (s.write setting value).map (fun _ => ()) = (other.write setting value).map fun _ => () := by
  cases setting.takes value with
  | unreadable fault h => rw [h, h]
  | checked fault? put hp hf h =>
      rw [h, h, hf s other hw]
      cases fault? other <;> rfl

/-- What a slot becomes depends on that slot and on those that the setting looks at. -/
theorem get_written_congr (hw : ∀ slot ∈ setting.watched, slot.get s = slot.get other)
    (hs : slot.get s = slot.get other) :
    slot.get (s.written setting value) = slot.get (other.written setting value) := by
  by_cases hm : slot ∈ setting.slots
  case neg => rw [get_written_of_not_mem hm, get_written_of_not_mem hm, hs]
  case pos =>
    cases setting.takes value with
    | unreadable fault h =>
        rw [written, written, h, h]
        exact hs
    | checked fault? put hp hf h =>
        rw [written, written, h, h, hf s other hw]
        cases fault? other with
        | none => exact hp.fixed s other slot hm
        | some => exact hs

theorem written_comm (h : a.Apart b) :
    (s.written a value).written b text = (s.written b text).written a value := by
  apply Slot.ext
  intro slot
  by_cases ha : slot ∈ a.slots
  · rw [get_written_of_not_mem (h.slots slot ha)]
    refine get_written_congr (fun watched hw => ?_) ?_
    · rw [get_written_of_not_mem (h.watched watched hw)]
    · rw [get_written_of_not_mem (h.slots slot ha)]
  · rw [get_written_of_not_mem ha]
    refine get_written_congr (fun watched hw => ?_) ?_
    · rw [get_written_of_not_mem (h.watches watched hw)]
    · rw [get_written_of_not_mem ha]

theorem write_again (h : s.write setting value = .ok next) : next.write setting value = .ok next := by
  cases setting.takes value with
  | unreadable fault hu =>
      rw [hu] at h
      cases h
  | checked fault? put hp hf hw =>
      rw [hw] at h
      cases hs : fault? s with
      | some fault =>
          rw [hs] at h
          cases h
      | none =>
          rw [hs] at h
          obtain rfl := Except.ok.inj h
          have hsame : ∀ slot ∈ setting.watched, slot.get (put s) = slot.get s :=
            fun slot hslot => hp.frame s slot (Setting.not_mem_slots_of_watched hslot)
          have hput : put (put s) = put s := by
            apply Slot.ext
            intro slot
            by_cases hm : slot ∈ setting.slots
            · exact hp.fixed (put s) s slot hm
            · exact hp.frame (put s) slot hm
          rw [hw, hf (put s) s hsame, hs, Option.elim_none, hput]

end Write

section Update

/-- What an update in place is answered with. -/
def answer (s : Settings) (key value : String) : Except SettingError Unit :=
  match (apply key value).run s with
  | .ok _ _ => .ok ()
  | .error e _ => .error e

variable {s next : Settings} {key other value text : String}

theorem answer_eq : s.answer key value = (s.update key value).map fun _ => () := by
  rw [answer, apply_atomic key value s]
  dsimp only
  cases s.update key value <;> rfl

theorem accepted_of_answer (h : s.answer key value = .ok ()) : ∃ next, (apply key value).run s = .ok () next := by
  unfold answer at h
  split at h
  case h_1 next hn => exact ⟨next, hn⟩
  case h_2 => cases h

theorem applyAll_single : s.applyAll [(key, value)] = (Setting.ofKey? key).elim s (s.written · value) := by
  have hleave : s.applyAll [(key, value)] = (s.update key value).toOption.getD s :=
    (apply_atomic key value).leave_eq s
  rw [hleave, update]
  cases Setting.ofKey? key with
  | none => rfl
  | some setting =>
      simp only [Option.elim_some, written]
      cases s.write setting value <;> rfl

theorem applyAll_pair :
    s.applyAll [(key, value), (other, text)] = (s.applyAll [(key, value)]).applyAll [(other, text)] := rfl

theorem answer_after (hne : key ≠ other) (h : (key, other) ∉ Setting.tiedKeys) (h' : (other, key) ∉ Setting.tiedKeys) :
    (s.applyAll [(key, value)]).answer other text = s.answer other text := by
  rw [answer_eq, answer_eq, applyAll_single, update, update]
  cases ha : Setting.ofKey? key with
  | none => rfl
  | some a =>
      cases hb : Setting.ofKey? other with
      | none => rfl
      | some b =>
          have hapart := Setting.apart_of_keys hne h h' ha hb
          have hanswer : ((s.written a value).write b text).map (fun _ => ()) = (s.write b text).map fun _ => () :=
            write_congr fun slot hw => get_written_of_not_mem (hapart.watches slot hw)
          simp only [Option.elim_some, map_mapError, hanswer]

theorem applyAll_comm (hne : key ≠ other) (h : (key, other) ∉ Setting.tiedKeys)
    (h' : (other, key) ∉ Setting.tiedKeys) :
    s.applyAll [(key, value), (other, text)] = s.applyAll [(other, text), (key, value)] := by
  simp only [applyAll_pair, applyAll_single]
  cases ha : Setting.ofKey? key with
  | none => rfl
  | some a =>
      cases hb : Setting.ofKey? other with
      | none => rfl
      | some b => exact written_comm (Setting.apart_of_keys hne h h' ha hb)

theorem update_again (h : s.update key value = .ok next) : next.update key value = .ok next := by
  unfold update at h ⊢
  split at h
  case h_1 => cases h
  case h_2 =>
    rw [write_again (ok_of_mapError h)]
    rfl

theorem apply_again (h : (apply key value).run s = .ok () next) : (apply key value).run next = .ok () next := by
  rw [(apply_atomic key value).run_ok_iff] at h ⊢
  exact update_again h

theorem update_balance (h : s.update key value = .ok next) : next.allocation.balance = s.allocation.balance := by
  unfold update at h
  split at h
  case h_1 => cases h
  case h_2 setting hk =>
    have hw : s.written setting value = next := by
      rw [written, ok_of_mapError h]
      rfl
    have hframe : Slot.balance.get (s.written setting value) = Slot.balance.get s :=
      get_written_of_not_mem Setting.balance_not_mem_slots
    rwa [hw] at hframe

end Update

end Settings

section Comparison

open Float.Model

theorem compare_self {x : UnpackedFloat} (h : x ≠ .notANumber) : x.compare x = some .eq := by
  cases x with
  | notANumber => exact absurd rfl h
  | infinity sign => cases sign <;> rfl
  | zero sign => rfl
  | finite sign mantissa exponent =>
      have heq : (compare exponent exponent).then (compare mantissa mantissa) = .eq := by simp
      cases sign with
      | positive => exact congrArg some heq
      | negative => exact congrArg (fun order : Ordering => some order.swap) heq

theorem compare_notANumber {x : UnpackedFloat} : UnpackedFloat.notANumber.compare x = none := by
  cases x <;> rfl

/-- What can be compared is a number, and so equals itself. -/
theorem beq_self_of_le {x y : Float} (h : x ≤ y) : (x == x) = true := by
  have hle : (x.toModel.unpack.compare y.toModel.unpack).any (·.isLE) = true := of_decide_eq_true h
  have hn : x.toModel.unpack ≠ .notANumber := by
    intro hn
    rw [hn, compare_notANumber] at hle
    cases hle
  change (x.toModel.unpack.compare x.toModel.unpack == some .eq) = true
  rw [compare_self hn]
  rfl

/-- All numbers of the settings are ones that equal themselves. -/
structure Settings.Comparable (s : Settings) : Prop where
  wellFormed : s.WellFormed
  balance : s.allocation.balance = initial.allocation.balance

namespace Settings.Comparable

variable {s next : Settings} {key value : String}

theorem initial : Settings.initial.Comparable := ⟨wellFormed_initial, rfl⟩

theorem update (hs : s.Comparable) (h : s.update key value = .ok next) : next.Comparable :=
  ⟨hs.wellFormed.update h, (update_balance h).trans hs.balance⟩

theorem applyAll (updates : List (String × String)) : (Settings.initial.applyAll updates).Comparable :=
  applyAll_keeps (fun _ _ _ _ h hs => hs.update h) initial updates

theorem beq_self (hs : s.Comparable) : (s == s) = true := by
  have hlow := beq_self_of_le hs.wellFormed.disk.low.2
  have hhigh := beq_self_of_le hs.wellFormed.disk.high.2
  have hbalance : (s.allocation.balance == s.allocation.balance) = true := by
    rw [hs.balance]
    decide
  have hdisk : (s.allocation.disk == s.allocation.disk) = true := by
    change instBEqDiskSettings.beq _ _ = true
    rw [instBEqDiskSettings.beq]
    simp [hlow, hhigh]
  have hallocation : (s.allocation == s.allocation) = true := by
    change instBEqAllocationSettings.beq _ _ = true
    rw [instBEqAllocationSettings.beq]
    simp [hdisk, hbalance]
  change instBEqSettings.beq _ _ = true
  rw [instBEqSettings.beq]
  simp [hallocation]

end Settings.Comparable

end Comparison

namespace SettingsBoard

variable {board next : SettingsBoard} {key value : String}

theorem accepted_of_answer (h : board.current.answer key value = .ok ()) :
    ∃ next, (apply key value).run board = .ok () next := by
  obtain ⟨settings, hs⟩ := Settings.accepted_of_answer h
  have hs := (Settings.apply_atomic key value).run_ok_iff.1 hs
  simp only [(apply_atomic key value).run_ok_iff]
  cases hd : settings == board.current with
  | true => exact ⟨_, update_unchanged hs hd⟩
  | false => exact ⟨_, update_changed hs hd⟩

theorem comparable_update (h : board.update key value = .ok next) (hb : board.current.Comparable) :
    next.current.Comparable := by
  obtain ⟨settings, hs, h⟩ := bind_ok h
  split at h
  case isTrue =>
    cases h
    exact hb
  case isFalse =>
    cases h
    exact hb.update hs

theorem update_again (hb : board.current.Comparable) (h : board.update key value = .ok next) :
    next.update key value = .ok next := by
  obtain ⟨settings, hs, hnext⟩ := bind_ok h
  split at hnext
  case isTrue =>
    -- nothing was replaced, so the board stands where it stood
    cases hnext
    exact h
  case isFalse =>
    cases hnext
    exact update_unchanged (Settings.update_again hs) (hb.update hs).beq_self

theorem apply_again (hb : board.current.Comparable) (h : (apply key value).run board = .ok () next) :
    (apply key value).run next = .ok () next := by
  rw [(apply_atomic key value).run_ok_iff] at h ⊢
  exact update_again hb h

end SettingsBoard

/-- Whatever the settings are, updates with different keys that are not tied are answered the same whether the
other one came first or not, and leave the same settings in either order. An update that was accepted is
accepted once more and changes nothing. Shared settings that were updated from the initial ones are not
announced for it again. -/
theorem independent_updates (s : Settings) (updates later : List (String × String)) :
    let board := (SettingsBoard.post (Settings.initial.applyAll updates)).applyAll later
    (∀ key value other text, key ≠ other → (key, other) ∉ Setting.tiedKeys → (other, key) ∉ Setting.tiedKeys →
        (s.applyAll [(key, value)]).answer other text = s.answer other text ∧
          s.applyAll [(key, value), (other, text)] = s.applyAll [(other, text), (key, value)]) ∧
      (∀ key value next, (Settings.apply key value).run s = .ok () next →
        (Settings.apply key value).run next = .ok () next) ∧
      ∀ key value next, (SettingsBoard.apply key value).run board = .ok () next →
        (SettingsBoard.apply key value).run next = .ok () next := by
  intro board
  have hboard : board.current.Comparable :=
    SettingsBoard.applyAll_keeps (P := fun board => board.current.Comparable)
      (fun _ _ _ _ h hb => SettingsBoard.comparable_update h hb) (Settings.Comparable.applyAll updates) later
  refine ⟨?_, ?_, ?_⟩
  · intro key value other text hne h h'
    exact ⟨Settings.answer_after hne h h', Settings.applyAll_comm hne h h'⟩
  · exact fun key value next h => Settings.apply_again h
  · exact fun key value next h => SettingsBoard.apply_again hboard h

/-- A low watermark that only a raised high one lets pass, and a rule of a filter. -/
theorem watermark_beside_rule :
    let s := Settings.initial.applyAll [(Setting.key .highWatermark, "97%")]
    let board := (SettingsBoard.post s).applyAll []
    let low := Setting.key .lowWatermark
    let rule := Setting.key (.filter .required "zone")
    Settings.initial.answer low "95" = .error (.invalid low "95" .lowAboveHigh) ∧
      (s.applyAll [(rule, "a*, b")]).answer low "95" = .ok () ∧
      s.applyAll [(rule, "a*, b"), (low, "95")] = s.applyAll [(low, "95"), (rule, "a*, b")] ∧
      (∃ next, (Settings.apply low "95").run s = .ok () next ∧ (Settings.apply low "95").run next = .ok () next) ∧
      ∃ next, (SettingsBoard.apply low "95").run board = .ok () next ∧
        (SettingsBoard.apply low "95").run next = .ok () next := by
  intro s board low rule
  obtain ⟨hpair, hagain, hboard⟩ := independent_updates s [(Setting.key .highWatermark, "97%")] []
  obtain ⟨hanswer, hcomm⟩ := hpair rule "a*, b" low "95" (by decide) (by decide) (by decide)
  have haccepted : s.answer low "95" = .ok () := by decide +kernel
  obtain ⟨next, hn⟩ := Settings.accepted_of_answer haccepted
  have hposted : board.current.answer low "95" = .ok () := haccepted
  obtain ⟨later, hl⟩ := SettingsBoard.accepted_of_answer hposted
  exact ⟨by decide +kernel, hanswer.trans haccepted, hcomm, ⟨next, hn, hagain low "95" next hn⟩,
    later, hl, hboard low "95" later hl⟩

end ClusterControl
