import ClusterControl.Ordered.SortedBy
import ClusterControl.Text.Blank
import ClusterControl.Text.Wildcard
import ClusterControl.Text.Numeral
import ClusterControl.Decimal.Text
import ClusterControl.Text.Quoted
import ClusterControl.Version
import ClusterControl.Topology.Descriptor
import ClusterControl.Voting.Exclusion
import ClusterControl.Settings.Filter
import ClusterControl.Settings.Update
import ClusterControl.State.Basic
import ClusterControl.Allocation.Service
import ClusterControl.Document.Json
import ClusterControl.Document.Report
import ClusterControl.Cluster.Session
import ClusterControl.Proofs.Voting.NameExclusion
import ClusterControl.Proofs.Voting.QuorumSafety
import ClusterControl.Proofs.Voting.WaitingClear
import ClusterControl.Proofs.Voting.Accumulation
import ClusterControl.Proofs.Cluster.Worker
import ClusterControl.Proofs.Cluster.Replies
import ClusterControl.Proofs.Cluster.Attention
import ClusterControl.Proofs.Voting.Outcome
import ClusterControl.Proofs.Ordered.Dictionary
import ClusterControl.Proofs.Routing.Table
import ClusterControl.Proofs.Routing.Lifecycle
import ClusterControl.Proofs.Routing.Departure
import ClusterControl.Proofs.Routing.Staffing
import ClusterControl.Proofs.Routing.Alignment
import ClusterControl.Proofs.Routing.Leadership
import ClusterControl.Proofs.Allocation.Steps
import ClusterControl.Proofs.Allocation.Passes
import ClusterControl.Proofs.Allocation.Reports
import ClusterControl.Proofs.Allocation.Run
import ClusterControl.Proofs.Allocation.Refinement
import ClusterControl.Proofs.Allocation.Reach
import ClusterControl.Proofs.Allocation.Verdict
import ClusterControl.Proofs.Allocation.Spread
import ClusterControl.Proofs.Allocation.Attendance
import ClusterControl.Proofs.Allocation.Failover
import ClusterControl.Proofs.Routing.Tally
import ClusterControl.Proofs.Allocation.Throttling
import ClusterControl.Proofs.Allocation.ShardLimits
import ClusterControl.Proofs.Allocation.Tenure
import ClusterControl.Proofs.Allocation.Caps
import ClusterControl.Proofs.Allocation.Retries
import ClusterControl.Proofs.Routing.Construction
import ClusterControl.Proofs.Allocation.Explanation
import ClusterControl.Proofs.Allocation.Continuity
import ClusterControl.Proofs.Allocation.Checks
import ClusterControl.Proofs.Allocation.Order
import ClusterControl.Proofs.Allocation.Repeats
import ClusterControl.Proofs.Cluster.Vigil
import ClusterControl.Proofs.Cluster.Observers
import ClusterControl.Proofs.Voting.LiveVoters
import ClusterControl.Proofs.Voting.SharedNames
import ClusterControl.Proofs.Settings.Validity
import ClusterControl.Proofs.Voting.Quorum
import ClusterControl.Proofs.Topology.Resolution
import ClusterControl.Proofs.Text.Wildcard
import ClusterControl.Proofs.Voting.Readding
import ClusterControl.Proofs.Allocation.StartReports
import ClusterControl.Proofs.Allocation.Freshness
import ClusterControl.Proofs.Allocation.Resizing
import ClusterControl.Proofs.Allocation.DiskSpace
import ClusterControl.Proofs.Allocation.Eviction
import ClusterControl.Proofs.Settings.Slots
import ClusterControl.Proofs.Settings.Independence
