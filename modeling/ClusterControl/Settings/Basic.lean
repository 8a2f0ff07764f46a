import ClusterControl.Settings.Choice
import ClusterControl.Settings.Filter

/-!
The dynamic settings of a cluster.
-/

namespace ClusterControl

/-- The watermarks are percentages of a disk. -/
structure DiskSettings where
  thresholdEnabled : Bool
  low : Float
  high : Float
  deriving BEq

/-- How much the number of shards and the number of shards of one index weigh, and the difference of
weights above which shards are moved. -/
structure BalanceSettings where
  shard : Float
  index : Float
  threshold : Float
  deriving BEq

structure AllocationSettings where
  enable : EnableAllocation
  rebalanceEnable : EnableRebalance
  allowRebalance : AllowRebalance
  concurrentRebalance : Int
  incomingRecoveries : Nat
  outgoingRecoveries : Nat
  initialPrimaries : Nat
  disk : DiskSettings
  awareness : List String
  totalShardsPerNode : Option Nat
  filters : AllocationFilters
  allocator : String
  balance : BalanceSettings
  deriving BEq

structure Settings where
  maxVotingExclusions : Nat
  allocation : AllocationSettings
  deriving BEq

namespace Settings

def balancedAllocator : String := "balanced"

/-- The settings of a cluster where nothing was set. -/
def initial : Settings where
  maxVotingExclusions := 10
  allocation := {
    enable := .all
    rebalanceEnable := .all
    allowRebalance := .indicesAllActive
    concurrentRebalance := 2
    incomingRecoveries := 2
    outgoingRecoveries := 2
    initialPrimaries := 4
    disk := ⟨true, 85, 90⟩
    awareness := []
    totalShardsPerNode := none
    filters := .empty
    allocator := balancedAllocator
    balance := ⟨0.45, 0.55, 1⟩ }

instance : Inhabited Settings := ⟨initial⟩

end Settings

end ClusterControl
