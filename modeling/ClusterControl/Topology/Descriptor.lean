import ClusterControl.Text.Wildcard
import ClusterControl.Topology.Directory

/-!
Descriptors name nodes of a directory: all of them, the local one, the master, one id, names by
pattern, or nodes by role or attribute.
-/

namespace ClusterControl

/-- A descriptor other than the reserved words is read as an id if it is one, else as a pattern. -/
inductive Descriptor
  | all
  | localNode
  | master
  | text (description : String)
  deriving DecidableEq, Repr

namespace Descriptor

def parse (s : String) : Descriptor :=
  if s = "_all" then .all
  else if s = "_local" then .localNode
  else if s = "_master" then .master
  else .text s

/-- Whether `key:value` names the node: a role that it holds or lacks, or one of its attributes. -/
def pairSelects (key value : String) (node : Node) : Bool :=
  match Role.ofName? key with
  | some role =>
    if value = "true" then node.hasRole role
    else if value = "false" then !node.hasRole role
    else false
  | none => node.attributes.toList.any fun (k, v) =>
      Wildcard.accepts key k && Wildcard.accepts value v

/-- Whether a text that is not an id names the node: by its name, or as `key:value`. -/
def patternSelects (description : String) (node : Node) : Bool :=
  Wildcard.accepts description node.name ||
    match Text.splitOnce ':' description.toList with
    | some (key, value) => pairSelects (String.ofList key) (String.ofList value) node
    | none => false

def selects (d : Directory) : Descriptor → Node → Bool
  | .all, _ => true
  | .localNode, node => d.localId = some node.id
  | .master, node => d.masterId = some node.id
  | .text s, node => if d.contains s then node.id = s else patternSelects s node

end Descriptor

namespace Directory

/-- The nodes named by at least one of the descriptions; by none at all, every node. -/
def resolve (d : Directory) (descriptions : List String) : List Node :=
  if descriptions.isEmpty then d.toList
  else d.toList.filter fun node =>
    descriptions.any fun s => (Descriptor.parse s).selects d node

def resolveMasterEligible (d : Directory) (descriptions : List String) :
    Except TopologyError (List Node) :=
  match (d.resolve descriptions).filter Node.isMasterEligible with
  | [] => .error (.noMasterEligible descriptions)
  | nodes => .ok nodes

end Directory

end ClusterControl
