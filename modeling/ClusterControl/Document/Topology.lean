import ClusterControl.Document.Basic
import ClusterControl.Topology.Directory

/-!
The written forms of nodes and directories.
-/

namespace ClusterControl

namespace Documented

/-- Sorted values are written in their order, and read in any. -/
instance {α κ : Type} [KeyOrder κ] {key : α → κ} [Documented α] : Documented (SortedBy key) where
  toDocument s := toDocument s.toList
  ofDocument? d := (ofDocument? d).map SortedBy.ofList

/-- The fields of a record as a dictionary, each value under its name. -/
def dictionary? {β : Type} [Documented β] (d : Document) : Option (Dictionary String β) := do
  let fields ← d.asRecord?
  let entries ← fields.mapM fun (name, content) =>
    (ofDocument? content).map fun value => (name, value)
  return .ofList entries

def ofDictionary {β : Type} [Documented β] (d : Dictionary String β) : Document :=
  .record (d.toList.map fun (name, value) => (name, toDocument value))

instance : Documented Role where
  toDocument role := .text role.name
  ofDocument? d := d.plainCase?.bind Role.ofName?

instance : Documented Version where
  toDocument v := .text v.render
  ofDocument? d := d.asText?.bind Version.parse?

instance : Documented Roles where
  toDocument roles := toDocument roles.toList
  ofDocument? d := (ofDocument? d).map Roles.ofList

instance : Documented Node where
  toDocument node := .record [
    ("id", .text node.id), ("name", .text node.name),
    ("attributes", ofDictionary node.attributes), ("roles", toDocument node.roles),
    ("version", toDocument node.version)]
  ofDocument? d := do
    match ← d.parts? ["id", "name", "attributes", "roles", "version"] with
    | [id, name, attributes, roles, version] =>
      return ⟨← required id, ← required name, ← attributes.bind dictionary?, ← required roles,
        ← required version⟩
    | _ => none

end Documented

/-- A directory as it is written. Nothing is checked: a node may stand under an id not its own, and
the local node and the master may be missing. -/
structure WrittenDirectory where
  nodes : Dictionary NodeId Node
  localId : Option NodeId
  masterId : Option NodeId

namespace WrittenDirectory

instance : Documented WrittenDirectory where
  toDocument w := .record [
    ("nodes", Documented.ofDictionary w.nodes), ("local_node_id", toDocument w.localId),
    ("master_node_id", toDocument w.masterId)]
  ofDocument? d := do
    match ← d.parts? ["nodes", "local_node_id", "master_node_id"] with
    | [nodes, localId, masterId] =>
      return ⟨← nodes.bind Documented.dictionary?, ← Documented.optional localId,
        ← Documented.optional masterId⟩
    | _ => none

end WrittenDirectory

end ClusterControl
