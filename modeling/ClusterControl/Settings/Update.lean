import ClusterControl.Decimal.Text
import ClusterControl.Settings.Basic
import ClusterControl.Settings.Key
import ClusterControl.Text.Blank
import ClusterControl.Text.Numeral

/-!
Changing settings by key and text. An update is checked as a whole: a refused one leaves the
settings as they are.
-/

namespace ClusterControl

/-- Why a text is no value of a setting. -/
inductive ValueFault
  | numeral (fault : Numeral.Fault)
  | decimal (fault : Decimal.Fault)
  | notTruth
  | notAmong (names : List String)
  | belowMinusOne
  | notPercentage
  | lowAboveHigh
  | highBelowLow
  | noAllocator
  deriving DecidableEq, Repr

def ValueFault.message : ValueFault → String
  | numeral fault => fault.message
  | decimal fault => fault.message
  | notTruth => "provided string was not `true` or `false`"
  | notAmong names => "expected one of [" ++ ", ".intercalate names ++ "]"
  | belowMinusOne => "must be >= -1"
  | notPercentage => "must be a percentage between 0 and 100"
  | lowAboveHigh => "low watermark must not exceed high watermark"
  | highBelowLow => "high watermark must not be below low watermark"
  | noAllocator => "allocator name must not be empty"

inductive SettingError
  | unknown (key : String)
  | invalid (key value : String) (fault : ValueFault)
  deriving DecidableEq, Repr

def SettingError.message : SettingError → String
  | unknown key => s!"unknown setting [{key}]"
  | invalid key value fault =>
    s!"failed to parse value [{value}] for setting [{key}]: " ++ fault.message

namespace Settings

/-- Values are read without the blanks around them. -/
def trimmed (value : String) : List Char :=
  Text.trim value.toList

def readCount (value : String) : Except ValueFault Nat :=
  (Numeral.nat (UInt64.size - 1) (trimmed value)).mapError .numeral

def readInt (bits : Nat) (value : String) : Except ValueFault Int :=
  (Numeral.int (1 <<< (bits - 1)) ((1 <<< (bits - 1)) - 1) (trimmed value)).mapError .numeral

def readChoice (α : Type) [Choice α] (value : String) : Except ValueFault α :=
  match Choice.read? (String.ofList (trimmed value)) with
  | some a => .ok a
  | none => .error (.notAmong (Choice.names α))

def readTruth (value : String) : Except ValueFault Bool :=
  match String.ofList (trimmed value) with
  | "true" => .ok true
  | "false" => .ok false
  | _ => .error .notTruth

/-- The text of a percentage without its signs. -/
def bare (value : String) : String :=
  String.ofList ((trimmed value).reverse.dropWhile (· = '%')).reverse

/-- A number from 0 to 100, with percent signs behind it or none. A text that is no number is
reported without the signs. -/
def readPercentage (value : String) : Except (String × ValueFault) Float :=
  match Decimal.read (trimmed (bare value)) with
  | .error fault => .error (bare value, .decimal fault)
  | .ok x => if 0 ≤ x ∧ x ≤ 100 then .ok x else .error (value, .notPercentage)

/-- The limit of a count per node; below zero there is none. A number that is too large for a limit is refused in
the words for one that is too large to be read. -/
def readLimit (value : String) : Except ValueFault (Option Nat) := do
  let limit ← readInt 64 value
  if limit < 0 then return none
  else if limit < UInt32.size then return some limit.toNat
  else throw (.numeral .tooLarge)

def readConcurrency (value : String) : Except ValueFault Int := do
  let limit ← readInt 32 value
  if limit < -1 then throw .belowMinusOne else return limit

def readAllocator (value : String) : Except ValueFault String :=
  if (trimmed value).isEmpty then .error .noAllocator else .ok (String.ofList (trimmed value))

def setFilter (filters : AllocationFilters) (kind : FilterKind) (label value : String) :
    AllocationFilters :=
  match kind with
  | .required => { filters with required := filters.required.set label value }
  | .included => { filters with included := filters.included.set label value }
  | .excluded => { filters with excluded := filters.excluded.set label value }

/-- Sets one setting. A fault comes with the text it is about. -/
def write (s : Settings) (setting : Setting) (value : String) :
    Except (String × ValueFault) Settings :=
  let whole {α : Type} (read : Except ValueFault α) : Except (String × ValueFault) α :=
    read.mapError fun fault => (value, fault)
  match setting with
  | .maxVotingExclusions => do
    return { s with maxVotingExclusions := ← whole (readCount value) }
  | .rebalanceEnable => do
    return { s with allocation.rebalanceEnable := ← whole (readChoice EnableRebalance value) }
  | .enable => do
    return { s with allocation.enable := ← whole (readChoice EnableAllocation value) }
  | .allowRebalance => do
    return { s with allocation.allowRebalance := ← whole (readChoice AllowRebalance value) }
  | .concurrentRebalance => do
    return { s with allocation.concurrentRebalance := ← whole (readConcurrency value) }
  | .incomingRecoveries => do
    return { s with allocation.incomingRecoveries := ← whole (readCount value) }
  | .outgoingRecoveries => do
    return { s with allocation.outgoingRecoveries := ← whole (readCount value) }
  | .concurrentRecoveries => do
    let limit ← whole (readCount value)
    return { s with allocation.incomingRecoveries := limit, allocation.outgoingRecoveries := limit }
  | .initialPrimaries => do
    return { s with allocation.initialPrimaries := ← whole (readCount value) }
  | .diskThresholdEnabled => do
    return { s with allocation.disk.thresholdEnabled := ← whole (readTruth value) }
  | .lowWatermark => do
    let low ← readPercentage value
    if s.allocation.disk.high < low then throw (value, .lowAboveHigh)
    return { s with allocation.disk.low := low }
  | .highWatermark => do
    let high ← readPercentage value
    if high < s.allocation.disk.low then throw (value, .highBelowLow)
    return { s with allocation.disk.high := high }
  | .awareness => return { s with allocation.awareness := Text.commaList value }
  | .totalShardsPerNode => do
    return { s with allocation.totalShardsPerNode := ← whole (readLimit value) }
  | .allocator => do
    return { s with allocation.allocator := ← whole (readAllocator value) }
  | .filter kind label =>
    return { s with allocation.filters := setFilter s.allocation.filters kind label value }

/-- Sets the setting with this key. -/
def update (s : Settings) (key value : String) : Except SettingError Settings :=
  match Setting.ofKey? key with
  | none => .error (.unknown key)
  | some setting =>
    (s.write setting value).mapError fun (text, fault) => .invalid key text fault

/-- Applies updates in order, up to the first that is refused. -/
def updateAll (s : Settings) : List (String × String) → Except SettingError Settings
  | [] => .ok s
  | (key, value) :: rest => do
    let s ← s.update key value
    s.updateAll rest

end Settings

/-- The settings shared by the services of a cluster, and what their subscribers were told. -/
structure SettingsBoard where
  current : Settings
  announced : Settings
  announcements : Nat

namespace SettingsBoard

def post (s : Settings) : SettingsBoard := ⟨s, s, 0⟩

/-- An accepted update that makes a difference replaces the settings and is announced. -/
def update (board : SettingsBoard) (key value : String) : Except SettingError SettingsBoard := do
  let next ← board.current.update key value
  if next == board.current then return board
  return ⟨next, next, board.announcements + 1⟩

end SettingsBoard

end ClusterControl
