import ClusterControl.Ordered.SortedBy
import ClusterControl.Version

/-!
Nodes of a cluster and the roles they hold.
-/

namespace ClusterControl

inductive Role
  | master
  | data
  | ingest
  deriving DecidableEq, Repr

namespace Role

def all : List Role := [master, data, ingest]

def name : Role → String
  | master => "master"
  | data => "data"
  | ingest => "ingest"

def ofName? (s : String) : Option Role :=
  all.find? fun role => role.name = s

theorem ofName?_name (role : Role) : ofName? role.name = some role := by
  cases role <;> decide

end Role

/-- The roles that a node holds. -/
structure Roles where
  master : Bool
  data : Bool
  ingest : Bool
  deriving DecidableEq, Repr

namespace Roles

def none : Roles := ⟨false, false, false⟩

def has (roles : Roles) : Role → Bool
  | .master => roles.master
  | .data => roles.data
  | .ingest => roles.ingest

def insert (roles : Roles) : Role → Roles
  | .master => { roles with master := true }
  | .data => { roles with data := true }
  | .ingest => { roles with ingest := true }

def ofList (roles : List Role) : Roles :=
  roles.foldl insert none

def toList (roles : Roles) : List Role :=
  Role.all.filter roles.has

end Roles

abbrev NodeId := String

structure Node where
  id : NodeId
  name : String
  attributes : Dictionary String String
  roles : Roles
  version : Version
  deriving DecidableEq

namespace Node

/-- A node without attributes and roles, of the initial version. -/
def bare (id : NodeId) (name : String) : Node :=
  ⟨id, name, .empty, .none, .initial⟩

def hasRole (node : Node) (role : Role) : Bool :=
  node.roles.has role

/-- A node that may be elected master and vote. -/
def isMasterEligible (node : Node) : Bool :=
  node.hasRole .master

/-- A node that holds shards. -/
def isDataNode (node : Node) : Bool :=
  node.hasRole .data

def valueOf? (node : Node) (key : String) : Option String :=
  node.attributes.get? key

/-- The name, then the id. -/
def render (node : Node) : String :=
  "\x7b" ++ node.name ++ "\x7d\x7b" ++ node.id ++ "\x7d"

end Node

end ClusterControl
