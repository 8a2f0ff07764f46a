import ClusterControl.Allocation.Service
import ClusterControl.Document.State

/-!
The written forms of decisions and explanations.
-/

namespace ClusterControl

def Outcome.word : Outcome → String
  | yes => "Yes"
  | throttle => "Throttle"
  | no => "No"

mutual

def Decision.toDocument : Decision → Document
  | .single outcome label text => .record [("Single", .record [
      ("outcome", .text outcome.word), ("label", ClusterControl.toDocument label),
      ("explanation", ClusterControl.toDocument text)])]
  | .multi parts => .record [("Multi", .list (Decision.partsToDocuments parts))]

def Decision.partsToDocuments : List Decision → List Document
  | [] => []
  | d :: ds => d.toDocument :: Decision.partsToDocuments ds

end

def Explanation.toDocument (e : Explanation) : Document :=
  .record [
    ("shard", ClusterControl.toDocument e.copy),
    ("can_remain", (e.canRemain.map Decision.toDocument).getD .null),
    ("node_decisions", .list (e.nodes.map fun (id, decision) =>
      .record [("node_id", .text id), ("decision", decision.toDocument)]))]

end ClusterControl
