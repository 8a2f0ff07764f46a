import ClusterControl.Text.Blank
import ClusterControl.Text.Wildcard
import ClusterControl.Topology.Node

/-!
Filters that say by attribute which nodes may hold shards.
-/

namespace ClusterControl

/-- For each attribute the patterns that its value is compared with. -/
structure NodeFilter where
  rules : Dictionary String (List String)
  deriving DecidableEq

namespace NodeFilter

def empty : NodeFilter := ⟨.empty⟩

instance : Inhabited NodeFilter := ⟨empty⟩

def isEmpty (f : NodeFilter) : Bool :=
  f.rules.isEmpty

/-- Sets the patterns of an attribute from a comma list; an empty list removes its rule. -/
def set (f : NodeFilter) (key values : String) : NodeFilter :=
  match Text.commaList values with
  | [] => ⟨f.rules.erase key⟩
  | patterns => ⟨f.rules.put key patterns⟩

/-- The value compared for an attribute; `_id` and `_name` stand for the node's own. -/
def value? (node : Node) (key : String) : Option String :=
  if key = "_id" then some node.id
  else if key = "_name" then some node.name
  else node.valueOf? key

def ruleAccepts (node : Node) (key : String) (patterns : List String) : Bool :=
  match value? node key with
  | some value => patterns.any fun pattern => Wildcard.accepts pattern value
  | none => false

def acceptsByAll (f : NodeFilter) (node : Node) : Bool :=
  f.rules.toList.all fun (key, patterns) => ruleAccepts node key patterns

def acceptsByAny (f : NodeFilter) (node : Node) : Bool :=
  f.rules.toList.any fun (key, patterns) => ruleAccepts node key patterns

def render (f : NodeFilter) : String :=
  " OR ".intercalate <| f.rules.toList.map fun (key, patterns) =>
    key ++ ":\"" ++ ",".intercalate patterns ++ "\""

end NodeFilter

/-- A node must pass all rules of `required`, one of `included` and none of `excluded`. -/
structure AllocationFilters where
  required : NodeFilter
  included : NodeFilter
  excluded : NodeFilter
  deriving DecidableEq

namespace AllocationFilters

def empty : AllocationFilters := ⟨.empty, .empty, .empty⟩

instance : Inhabited AllocationFilters := ⟨empty⟩

def isEmpty (f : AllocationFilters) : Bool :=
  f.required.isEmpty && f.included.isEmpty && f.excluded.isEmpty

end AllocationFilters

end ClusterControl
