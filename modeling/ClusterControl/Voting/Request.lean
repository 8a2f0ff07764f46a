import ClusterControl.Settings.Key
import ClusterControl.State.Basic
import ClusterControl.Text.Quoted
import ClusterControl.Topology.Descriptor

/-!
Requests to exclude nodes from voting, and to end all exclusions. A request resolves against a
state: the exclusions that it asks for depend on the nodes that are there and on those that were
excluded before.
-/

namespace ClusterControl

/-- Milliseconds that a request waits if it does not say. -/
def defaultTimeout : Nat := 30000

/-- The nodes to exclude: by descriptors, by ids or by names. -/
structure ExclusionRequest where
  descriptions : List String
  ids : List NodeId
  names : List String
  timeout : Nat
  deriving DecidableEq, Repr

/-- A request to end every exclusion, perhaps only once the excluded nodes have left. -/
structure ClearRequest where
  waitForRemoval : Bool
  timeout : Nat
  deriving DecidableEq, Repr

/-- Why a request asks for nothing. -/
inductive RequestFault
  | notOneKind
  | unresolved (error : TopologyError)
  deriving DecidableEq, Repr

def RequestFault.message : RequestFault → String
  | notOneKind =>
    "Please set node identifiers correctly. One and only one of [node_name], [node_names] and " ++
      "[node_ids] has to be set"
  | unresolved error => error.message

namespace ExclusionRequest

/-- Exactly one of the three lists names nodes. -/
def isValid (r : ExclusionRequest) : Bool :=
  [r.descriptions, r.ids, r.names].countP (fun names => !names.isEmpty) = 1

def render (r : ExclusionRequest) : String :=
  let listed (names : List String) := "[" ++ ", ".intercalate names ++ "]"
  if !r.descriptions.isEmpty then listed r.descriptions
  else if !r.ids.isEmpty then "nodes with ids " ++ listed r.ids
  else "nodes named " ++ listed r.names

/-- What to tell a client that still uses descriptors. -/
def deprecation? (r : ExclusionRequest) : Option String :=
  if r.descriptions.isEmpty then none
  else some ("nodeDescriptions for voting config exclusions is deprecated, use node_ids or " ++
    "node_names instead: " ++ Text.quotedList r.descriptions)

/-- What one id or name asks for, given the node it stands for, if that is there. A node that cannot
vote needs no exclusion. For an absent one, the exclusion that is known is kept. -/
def target? (node : Option Node) (known : Option Exclusion) (unknown : Exclusion) :
    Option Exclusion :=
  match node with
  | some node => if node.isMasterEligible then some (.ofNode node) else none
  | none => some (known.getD unknown)

def idTarget? (s : ClusterState) (id : NodeId) : Option Exclusion :=
  target? (s.directory.find? id)
    (s.coordination.exclusions.toList.find? fun e => e.nodeId = some id) (.ofId id)

def nameTarget? (s : ClusterState) (name : String) : Option Exclusion :=
  target? (s.directory.findName? name)
    (s.coordination.exclusions.toList.find? fun e => e.nodeName = some name) (.ofName name)

/-- The exclusions that the request asks for in a state. -/
def resolve (r : ExclusionRequest) (s : ClusterState) : Except RequestFault ExclusionSet :=
  if !r.isValid then .error .notOneKind
  else if r.descriptions.isEmpty then
    .ok (.ofList (r.ids.filterMap (idTarget? s) ++ r.names.filterMap (nameTarget? s)))
  else
    match s.directory.resolveMasterEligible r.descriptions with
    | .ok nodes => .ok (.ofList (nodes.map Exclusion.ofNode))
    | .error e => .error (.unresolved e)

end ExclusionRequest

/-- More exclusions than the settings allow. -/
structure Excess where
  request : ExclusionRequest
  added : Nat
  existing : Nat
  maximum : Nat
  deriving DecidableEq, Repr

def Excess.message (e : Excess) : String :=
  s!"add voting config exclusions request for {e.request.render} would add [{e.added}] " ++
    s!"exclusions to the existing [{e.existing}] which would exceed the maximum of " ++
    s!"[{e.maximum}] set by [{Setting.maxVotingExclusionsKey}]"

/-- Whether `existing` and the exclusions that `r` resolved to are too many together. -/
def ExclusionRequest.excess? (r : ExclusionRequest) (existing resolved : ExclusionSet)
    (maximum : Nat) : Option Excess :=
  let total := (existing.union resolved).size
  if total ≤ maximum then none else some ⟨r, total - existing.size, existing.size, maximum⟩

end ClusterControl
