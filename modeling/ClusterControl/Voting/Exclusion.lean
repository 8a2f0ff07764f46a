import ClusterControl.Voting.Configuration

/-!
Exclusions keep nodes out of the voting configuration, whether or not they are in the cluster.
-/

namespace ClusterControl

/-- Names a node by its id, or by its name where the id is not known. -/
structure Exclusion where
  nodeId : Option NodeId
  nodeName : Option String
  deriving DecidableEq, Repr

namespace Exclusion

/-- Exclusions are ordered by id, then by name. -/
instance : KeyOrder Exclusion :=
  .ofKey (fun e => (e.nodeId, e.nodeName)) fun a b h => by
    cases a
    cases b
    simp_all

def ofNode (node : Node) : Exclusion :=
  ⟨node.id, node.name⟩

def ofId (id : NodeId) : Exclusion :=
  ⟨id, none⟩

def ofName (name : String) : Exclusion :=
  ⟨none, name⟩

/-- An id decides alone; the name counts only without an id. -/
def selects (e : Exclusion) (node : Node) : Bool :=
  match e.nodeId, e.nodeName with
  | some id, _ => id = node.id
  | none, some name => name = node.name
  | none, none => false

def isPresentIn (e : Exclusion) (d : Directory) : Bool :=
  d.toList.any e.selects

def render (e : Exclusion) : String :=
  "\x7b" ++ e.nodeId.getD "_absent_" ++ "\x7d\x7b" ++ e.nodeName.getD "_absent_" ++ "\x7d"

def renderList (es : List Exclusion) : String :=
  "[" ++ ", ".intercalate (es.map render) ++ "]"

end Exclusion

abbrev ExclusionSet := SortedSet Exclusion

namespace VotingConfiguration

/-- The master-eligible nodes whose ids are not excluded. -/
def ofLiveNodes (d : Directory) (exclusions : List Exclusion) : VotingConfiguration :=
  let excluded := exclusions.filterMap Exclusion.nodeId
  ofNodes (d.masterEligible.filter fun node => !excluded.contains node.id)

end VotingConfiguration

/-- What the cluster agrees on about voting: the configuration accepted last, the one committed
last, and who is kept out. -/
structure Coordination where
  term : Nat
  committed : VotingConfiguration
  accepted : VotingConfiguration
  exclusions : ExclusionSet
  deriving DecidableEq

def Coordination.initial : Coordination := ⟨0, .empty, .empty, .empty⟩

instance : Inhabited Coordination := ⟨.initial⟩

end ClusterControl
