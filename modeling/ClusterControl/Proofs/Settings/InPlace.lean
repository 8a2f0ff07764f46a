import ClusterControl.Settings.Update

/-!
Updates of settings where they stand. A program reads, checks and stores, and what it stored before a
fault stays stored. No update stores anything before its last check: a program does what the update
computes, or leaves everything as it was.
-/

namespace ClusterControl

namespace InPlace

variable {ε ε' σ α ι : Type}

/-- The program leaves what the function computes, or else its error and the state as it was. -/
def Atomic (program : EStateM ε σ Unit) (compute : σ → Except ε σ) : Prop :=
  ∀ s, program.run s =
    match compute s with
    | .ok next => .ok () next
    | .error e => .error e s

/-- What a program leaves, whether it ends well or not. -/
def leave (program : EStateM ε σ Unit) (s : σ) : σ :=
  match program.run s with
  | .ok _ left | .error _ left => left

/-- What programs leave one after the other. -/
def leaveAll (program : ι → EStateM ε σ Unit) (s : σ) (is : List ι) : σ :=
  is.foldl (fun s i => leave (program i) s) s

/-- Reads a value, then stores it. -/
def store (read : Except ε α) (put : α → σ → σ) : EStateM ε σ Unit := do
  let a ← ofExcept read
  modify (put a)

/-- Reads a value, and stores it unless it is bad for the state at hand. -/
def storeUnless (read : Except ε α) (bad : α → σ → Prop) [∀ a s, Decidable (bad a s)] (fault : ε)
    (put : α → σ → σ) : EStateM ε σ Unit := do
  let a ← ofExcept read
  if bad a (← get) then throw fault
  modify (put a)

variable {program : EStateM ε σ Unit} {compute : σ → Except ε σ}

theorem Atomic.leave_eq (h : Atomic program compute) (s : σ) : leave program s = (compute s).toOption.getD s := by
  rw [leave, h s]
  cases compute s <;> rfl

theorem Atomic.run_ok_iff (h : Atomic program compute) {s next : σ} :
    program.run s = .ok () next ↔ compute s = .ok next := by
  rw [h s]
  cases compute s <;> simp

theorem leaveAll_keeps {program : ι → EStateM ε σ Unit} {compute : ι → σ → Except ε σ} {P : σ → Prop}
    (h : ∀ i, Atomic (program i) (compute i)) (hk : ∀ i s next, compute i s = .ok next → P s → P next)
    (hs : P s) (is : List ι) : P (leaveAll program s is) := by
  refine List.foldlRecOn is _ hs ?_
  intro s hs i _
  rw [(h i).leave_eq]
  cases hc : compute i s with
  | error => exact hs
  | ok next => exact hk i s next hc hs

theorem Atomic.adaptExcept (h : Atomic program compute) (f : ε → ε') :
    Atomic (EStateM.adaptExcept f program) fun s => (compute s).mapError f := by
  intro s
  have hs := h s
  simp only [EStateM.run] at hs
  simp only [EStateM.run, EStateM.adaptExcept, hs]
  cases compute s <;> rfl

theorem atomic_store (read : Except ε α) (put : α → σ → σ) :
    Atomic (store read put) fun s => return put (← read) s := by
  intro s
  cases read <;> rfl

theorem atomic_storeUnless (read : Except ε α) (bad : α → σ → Prop) [∀ a s, Decidable (bad a s)] (fault : ε)
    (put : α → σ → σ) : Atomic (storeUnless read bad fault put) fun s => do
      let a ← read
      if bad a s then throw fault
      return put a s := by
  intro s
  cases read with
  | error => rfl
  | ok a =>
      have hok : (Except.ok a : Except ε α) = pure a := rfl
      by_cases h : bad a s
      · simp only [storeUnless, ofExcept, hok, pure_bind, EStateM.run_bind, EStateM.run_get, EStateM.run_throw,
          h, if_true]
        rfl
      · simp only [storeUnless, ofExcept, hok, pure_bind, EStateM.run_bind, EStateM.run_get, h, if_false]
        rfl

end InPlace

open InPlace

namespace Settings

/-- Sets one setting in place. -/
def assign (setting : Setting) (value : String) : EStateM (String × ValueFault) Settings Unit :=
  let whole {α : Type} (read : Except ValueFault α) : Except (String × ValueFault) α :=
    read.mapError fun fault => (value, fault)
  match setting with
  | .maxVotingExclusions =>
    store (whole (readCount value)) fun maximum s => { s with maxVotingExclusions := maximum }
  | .rebalanceEnable =>
    store (whole (readChoice EnableRebalance value)) fun enable s =>
      { s with allocation.rebalanceEnable := enable }
  | .enable =>
    store (whole (readChoice EnableAllocation value)) fun enable s => { s with allocation.enable := enable }
  | .allowRebalance =>
    store (whole (readChoice AllowRebalance value)) fun allow s => { s with allocation.allowRebalance := allow }
  | .concurrentRebalance =>
    store (whole (readConcurrency value)) fun limit s => { s with allocation.concurrentRebalance := limit }
  | .incomingRecoveries =>
    store (whole (readCount value)) fun limit s => { s with allocation.incomingRecoveries := limit }
  | .outgoingRecoveries =>
    store (whole (readCount value)) fun limit s => { s with allocation.outgoingRecoveries := limit }
  | .concurrentRecoveries => do
    let limit ← ofExcept (whole (readCount value))
    modify fun s => { s with allocation.incomingRecoveries := limit }
    modify fun s => { s with allocation.outgoingRecoveries := limit }
  | .initialPrimaries =>
    store (whole (readCount value)) fun limit s => { s with allocation.initialPrimaries := limit }
  | .diskThresholdEnabled =>
    store (whole (readTruth value)) fun enabled s => { s with allocation.disk.thresholdEnabled := enabled }
  | .lowWatermark =>
    storeUnless (readPercentage value) (fun low s => s.allocation.disk.high < low) (value, .lowAboveHigh)
      fun low s => { s with allocation.disk.low := low }
  | .highWatermark =>
    storeUnless (readPercentage value) (fun high s => high < s.allocation.disk.low) (value, .highBelowLow)
      fun high s => { s with allocation.disk.high := high }
  | .awareness => modify fun s => { s with allocation.awareness := Text.commaList value }
  | .totalShardsPerNode =>
    store (whole (readLimit value)) fun limit s => { s with allocation.totalShardsPerNode := limit }
  | .allocator =>
    store (whole (readAllocator value)) fun name s => { s with allocation.allocator := name }
  | .filter kind label =>
    modify fun s => { s with allocation.filters := setFilter s.allocation.filters kind label value }

theorem assign_atomic (setting : Setting) (value : String) :
    Atomic (assign setting value) (·.write setting value) := by
  cases setting
  case awareness | filter => exact fun s => rfl
  case concurrentRecoveries =>
    -- two stores, both after the only fault that there can be
    intro s
    simp only [assign, write]
    cases readCount value <;> rfl
  case lowWatermark | highWatermark => exact atomic_storeUnless _ _ _ _
  all_goals exact atomic_store _ _

/-- Sets the setting with this key in place. -/
def apply (key value : String) : EStateM SettingError Settings Unit :=
  match Setting.ofKey? key with
  | none => throw (.unknown key)
  | some setting => (assign setting value).adaptExcept fun (text, fault) => .invalid key text fault

theorem apply_atomic (key value : String) : Atomic (apply key value) (·.update key value) := by
  unfold apply update
  cases Setting.ofKey? key with
  | none => exact fun s => rfl
  | some setting => exact (assign_atomic setting value).adaptExcept _

/-- What comes of an update of settings in place. -/
inductive Updates (s : Settings) (key value : String) : EStateM.Result SettingError Settings Unit → Prop
  | refused (error : SettingError) (h : s.update key value = .error error) : Updates s key value (.error error s)
  | accepted (next : Settings) (h : s.update key value = .ok next) : Updates s key value (.ok () next)

theorem updates_apply (s : Settings) (key value : String) : s.Updates key value ((apply key value).run s) := by
  rw [apply_atomic key value s]
  split
  case h_1 next h => exact .accepted next h
  case h_2 error h => exact .refused error h

/-- The settings as updates leave them, accepted and refused ones. -/
def applyAll (s : Settings) (updates : List (String × String)) : Settings :=
  leaveAll (fun update => apply update.1 update.2) s updates

theorem applyAll_keeps {P : Settings → Prop} {s : Settings}
    (hk : ∀ s key value next, update s key value = .ok next → P s → P next) (hs : P s)
    (updates : List (String × String)) : P (s.applyAll updates) := by
  have ha : ∀ update : String × String, Atomic (apply update.1 update.2) (·.update update.1 update.2) :=
    fun update => apply_atomic update.1 update.2
  exact leaveAll_keeps ha (fun update s => hk s update.1 update.2) hs updates

end Settings

namespace SettingsBoard

/-- Updates a copy of the settings; if that makes a difference it replaces them, and then is announced. -/
def apply (key value : String) : EStateM SettingError SettingsBoard Unit := do
  let board ← get
  match (Settings.apply key value).run board.current with
  | .error e _ => throw e
  | .ok _ next =>
    if next == board.current then return
    modify fun board => { board with current := next }
    -- here the settings are new already, and nobody was told
    modify fun board => { board with announced := next, announcements := board.announcements + 1 }

variable {board : SettingsBoard} {key value : String} {error : SettingError} {next : Settings}

theorem update_refused (h : board.current.update key value = .error error) :
    board.update key value = .error error := by
  simp only [update, h]
  rfl

theorem update_unchanged (h : board.current.update key value = .ok next) (he : (next == board.current) = true) :
    board.update key value = .ok board := by
  simp only [update, h, bind, Except.bind, he, if_true]
  rfl

theorem update_changed (h : board.current.update key value = .ok next) (hd : (next == board.current) = false) :
    board.update key value = .ok ⟨next, next, board.announcements + 1⟩ := by
  simp only [update, h, bind, Except.bind, hd]
  rfl

theorem apply_atomic (key value : String) : Atomic (apply key value) (·.update key value) := by
  intro board
  have hs := Settings.apply_atomic key value board.current
  simp only [apply, EStateM.run_bind, EStateM.run_get, hs]
  cases h : board.current.update key value with
  | error error =>
      rw [update_refused h]
      rfl
  | ok next =>
      cases hd : next == board.current with
      | true =>
          simp only [update_unchanged h hd, hd, if_true]
          rfl
      | false =>
          simp only [update_changed h hd, hd, Bool.false_eq_true, if_false]
          rfl

/-- What comes of an update of shared settings in place. -/
inductive Updates (board : SettingsBoard) (key value : String) :
    EStateM.Result SettingError SettingsBoard Unit → Prop
  | refused (error : SettingError) (h : board.current.update key value = .error error) :
      Updates board key value (.error error board)
  | unchanged (next : Settings) (h : board.current.update key value = .ok next)
      (he : (next == board.current) = true) : Updates board key value (.ok () board)
  | announced (next : Settings) (h : board.current.update key value = .ok next)
      (hd : (next == board.current) = false) :
      Updates board key value (.ok () ⟨next, next, board.announcements + 1⟩)

theorem updates_apply (board : SettingsBoard) (key value : String) :
    board.Updates key value ((apply key value).run board) := by
  rw [apply_atomic key value board]
  cases h : board.current.update key value with
  | error error =>
      simp only [update_refused h]
      exact .refused error h
  | ok next =>
      cases hd : next == board.current with
      | true =>
          simp only [update_unchanged h hd]
          exact .unchanged next h hd
      | false =>
          simp only [update_changed h hd]
          exact .announced next h hd

/-- The shared settings as updates leave them. -/
def applyAll (board : SettingsBoard) (updates : List (String × String)) : SettingsBoard :=
  leaveAll (fun update => apply update.1 update.2) board updates

theorem applyAll_keeps {P : SettingsBoard → Prop}
    (hk : ∀ board key value next, update board key value = .ok next → P board → P next) (hb : P board)
    (updates : List (String × String)) : P (board.applyAll updates) := by
  have ha : ∀ update : String × String, Atomic (apply update.1 update.2) (·.update update.1 update.2) :=
    fun update => apply_atomic update.1 update.2
  exact leaveAll_keeps ha (fun update board => hk board update.1 update.2) hb updates

end SettingsBoard

end ClusterControl
