import ClusterControl.Allocation.Rule
import ClusterControl.Settings.Key

/-!
Rules on which node may hold a copy: filters, other copies of the shard, counts, and an even spread
over the values of attributes.
-/

namespace ClusterControl.Rules

/-- Why a node does not pass the filters set at one level, `index` or `cluster`. -/
def filterObstacle? (filters : AllocationFilters) (node : Node) (level : String) : Option String :=
  let setting (kind : FilterKind) := s!"{level} setting [{level}.routing.allocation.{kind.name}]"
  if !filters.required.isEmpty && !filters.required.acceptsByAll node then
    some s!"node does not match {setting .required} filters [{filters.required.render}]"
  else if !filters.included.isEmpty && !filters.included.acceptsByAny node then
    some s!"node does not match {setting .included} filters [{filters.included.render}]"
  else if !filters.excluded.isEmpty && filters.excluded.acceptsByAny node then
    some s!"node matches {setting .excluded} filters [{filters.excluded.render}]"
  else none

/-- The filters of the index are looked at first. -/
def passesFilters (r : Round) (c : ShardCopy) (node : Node) : Decision :=
  let ofIndex := (r.indexOf? c).bind fun index =>
    filterObstacle? index.settings.filters node "index"
  match ofIndex.orElse fun _ => filterObstacle? r.settings.filters node "cluster" with
  | some obstacle => .refuse "filter" obstacle
  | none => .allow "filter" "node passes include/exclude/require filters"

def filter : Rule where
  name := "filter"
  allocate := passesFilters
  remain := passesFilters

/-- A node holds at most one copy of a shard. -/
def sameShard : Rule where
  name := "same_shard"
  allocate r c node :=
    let there := (r.routing.copies c.shard).find? fun d =>
      !d.sameCopy c && (d.isOn node.id || d.isMovingTo node.id)
    match there with
    | some d =>
      .refuse "same_shard" s!"a copy of this shard is already allocated to this node [{d.render}]"
    | none => .allow "same_shard" "this node does not hold a copy of this shard"

/-- Whether a count is over a limit: with one copy more to come, or as it is. -/
def overLimit (coming : Bool) (count limit : Nat) : Bool :=
  if coming then limit ≤ count else limit < count

def underShardLimits (coming : Bool) (r : Round) (c : ShardCopy) (node : Node) : Decision :=
  let label := "shards_limit"
  let name := c.shard.index
  let here := r.routing.onOrMovingTo node.id
  let ofIndex := here.countP fun d => d.shard.index = name
  match (r.index? name).bind fun index => index.settings.totalShardsPerNode with
  | some limit =>
    if overLimit coming ofIndex limit then
      .refuse label (s!"too many shards [{ofIndex}] allocated to this node for index [{name}], " ++
        s!"index setting [index.routing.allocation.total_shards_per_node={limit}]")
    else ofCluster label here.length
  | none => ofCluster label here.length
where
  ofCluster (label : String) (count : Nat) : Decision :=
    let under : Decision := .allow label "the shard count is under the index and cluster limits"
    match r.settings.totalShardsPerNode with
    | some limit =>
      if overLimit coming count limit then
        .refuse label (s!"too many shards [{count}] allocated to this node, cluster setting " ++
          s!"[cluster.routing.allocation.total_shards_per_node={limit}]")
      else under
    | none => under

def shardsLimit : Rule where
  name := "shards_limit"
  allocate := underShardLimits true
  remain := underShardLimits false

/-- The value of an attribute where a copy is or will be. -/
def valueAt? (r : Round) (key : String) (c : ShardCopy) : Option String :=
  (c.destination.bind r.directory.find?).bind fun node => node.valueOf? key

/-- How many copies of a shard have a value. If the copy is moving to a node with that value it
counts there, and no longer where it was. -/
def copiesWithValue (r : Round) (key value : String) (coming : Bool) (c : ShardCopy) : Nat :=
  let count := (r.routing.copies c.shard).countP fun d => valueAt? r key d = some value
  if coming then (if valueAt? r key c = some value then count - 1 else count) + 1 else count

/-- The values of an attribute on data nodes, and one more. -/
def valuesOf (r : Round) (key value : String) : SortedSet String :=
  .ofList (r.directory.dataNodes.filterMap (·.valueOf? key) ++ [value])

/-- The first of the attributes by which a node does not serve the even spread of a shard. -/
def spreadObstacle? (coming : Bool) (r : Round) (c : ShardCopy) (node : Node) (total : Nat) :
    List String → Option String
  | [] => none
  | key :: keys =>
    match node.valueOf? key with
    | none =>
      some (s!"node does not contain the awareness attribute [{key}], required by cluster setting " ++
        "[cluster.routing.allocation.awareness.attributes]")
    | some value =>
      let values := (valuesOf r key value).size
      let current := copiesWithValue r key value coming c
      let required := (total + values - 1) / values
      if required < current then
        some ("there are too many copies of the shard allocated to nodes with attribute " ++
          s!"[{key}], there are [{total}] total configured shard copies for this shard id and " ++
          s!"[{values}] total attribute values, expected the allocated shard count per attribute " ++
          s!"[{current}] to be less than or equal to the upper bound of the required number of " ++
          s!"shards per attribute [{required}]")
      else spreadObstacle? coming r c node total keys

def spreadsEvenly (coming : Bool) (r : Round) (c : ShardCopy) (node : Node) : Decision :=
  if r.settings.awareness.isEmpty then .allow "awareness" "allocation awareness is not enabled"
  else match r.indexOf? c with
    | none => .yes
    | some index =>
      match spreadObstacle? coming r c node (index.replicas + 1) r.settings.awareness with
      | some obstacle => .refuse "awareness" obstacle
      | none => .allow "awareness" "node meets all awareness attribute requirements"

/-- Copies of a shard are spread over the values of each attribute. -/
def awareness : Rule where
  name := "awareness"
  allocate := spreadsEvenly true
  remain := spreadsEvenly false

end ClusterControl.Rules
