import ClusterControl.Topology.Directory

/-!
Voting configurations: the nodes whose votes count towards a quorum.
-/

namespace ClusterControl

structure VotingConfiguration where
  ids : SortedSet NodeId
  deriving DecidableEq

namespace VotingConfiguration

def empty : VotingConfiguration := ⟨.empty⟩

instance : Inhabited VotingConfiguration := ⟨empty⟩

def ofIds (ids : List NodeId) : VotingConfiguration :=
  ⟨.ofList ids⟩

def ofNodes (nodes : List Node) : VotingConfiguration :=
  ofIds (nodes.map Node.id)

def toList (c : VotingConfiguration) : List NodeId :=
  c.ids.toList

def contains (c : VotingConfiguration) (id : NodeId) : Bool :=
  c.ids.contains id

def size (c : VotingConfiguration) : Nat :=
  c.ids.size

def isEmpty (c : VotingConfiguration) : Bool :=
  c.ids.isEmpty

/-- The least number of votes that decides: more than half. -/
def quorumSize (c : VotingConfiguration) : Nat :=
  c.size / 2 + 1

/-- Whether more than half of the configuration voted. Repeated votes and votes from outside do not
count. -/
def hasQuorum (c : VotingConfiguration) (votes : List NodeId) : Bool :=
  let counted : SortedSet NodeId := .ofList votes
  c.size < (counted.inter c.ids).size * 2

def insert (c : VotingConfiguration) (id : NodeId) : VotingConfiguration :=
  ⟨c.ids.insert id⟩

def without (c : VotingConfiguration) (ids : List NodeId) : VotingConfiguration :=
  ⟨ids.foldl SortedBy.erase c.ids⟩

def inter (c other : VotingConfiguration) : SortedSet NodeId :=
  c.ids.inter other.ids

def render (c : VotingConfiguration) : String :=
  "VotingConfiguration\x7b" ++ ",".intercalate c.toList ++ "\x7d"

end VotingConfiguration

end ClusterControl
