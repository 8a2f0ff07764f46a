import ClusterControl.Topology.Node

/-!
The directory of a cluster: its nodes by id, the one that keeps the directory and the elected
master. Both of these are in the directory.
-/

namespace ClusterControl

inductive TopologyError
  | noMasterEligible (descriptions : List String)
  | duplicateNode (id : NodeId)
  | unknownNode (id : NodeId)
  | unknownRole (name : String)
  deriving DecidableEq, Repr

def TopologyError.message : TopologyError → String
  | noMasterEligible descriptions =>
    "[" ++ ", ".intercalate descriptions ++ "] matched no master-eligible nodes"
  | duplicateNode id => s!"duplicate node id [{id}]"
  | unknownNode id => s!"node [{id}] is not part of the directory"
  | unknownRole name => s!"unknown node role [{name}]"

/-- Nodes in the order of their ids. -/
abbrev NodeTable := SortedBy Node.id

structure Directory where
  nodes : NodeTable
  localId : Option NodeId
  masterId : Option NodeId
  local_mem : ∀ id ∈ localId, nodes.contains id = true
  master_mem : ∀ id ∈ masterId, nodes.contains id = true
  deriving DecidableEq

namespace Directory

def empty : Directory := ⟨.empty, none, none, by simp, by simp⟩

instance : Inhabited Directory := ⟨empty⟩

/-- The nodes, in the order of their ids. -/
def toList (d : Directory) : List Node :=
  d.nodes.toList

def ids (d : Directory) : List NodeId :=
  d.nodes.keys

def find? (d : Directory) (id : NodeId) : Option Node :=
  d.nodes.find? id

def contains (d : Directory) (id : NodeId) : Bool :=
  d.nodes.contains id

/-- The first node of that name, in the order of ids. -/
def findName? (d : Directory) (name : String) : Option Node :=
  d.toList.find? fun node => node.name = name

def masterEligible (d : Directory) : List Node :=
  d.toList.filter Node.isMasterEligible

def dataNodes (d : Directory) : List Node :=
  d.toList.filter Node.isDataNode

def localNode? (d : Directory) : Option Node :=
  d.localId.bind d.find?

def masterNode? (d : Directory) : Option Node :=
  d.masterId.bind d.find?

theorem contains_insert {s : NodeTable} {node : Node} {id : NodeId}
    (h : s.contains id = true) : (s.insert node).contains id = true := by
  rw [SortedBy.contains_iff] at *
  obtain ⟨n, hn, rfl⟩ := h
  by_cases he : n.id = node.id
  · exact ⟨node, SortedBy.mem_insert.2 (.inl rfl), he.symm⟩
  · exact ⟨n, SortedBy.mem_insert.2 (.inr ⟨hn, he⟩), rfl⟩

theorem contains_erase {s : NodeTable} {id other : NodeId} (h : s.contains id = true)
    (hne : id ≠ other) : (s.erase other).contains id = true := by
  rw [SortedBy.contains_iff] at *
  obtain ⟨n, hn, rfl⟩ := h
  exact ⟨n, SortedBy.mem_erase.2 ⟨hn, hne⟩, rfl⟩

/-- Adds a node, or replaces the one with its id. -/
def insert (d : Directory) (node : Node) : Directory where
  nodes := d.nodes.insert node
  localId := d.localId
  masterId := d.masterId
  local_mem id h := contains_insert (d.local_mem id h)
  master_mem id h := contains_insert (d.master_mem id h)

/-- Removes a node. If it was the local node or the master, there is none any more. -/
def erase (d : Directory) (id : NodeId) : Directory where
  nodes := d.nodes.erase id
  localId := d.localId.filter (· ≠ id)
  masterId := d.masterId.filter (· ≠ id)
  local_mem i h := by
    obtain ⟨h, hne⟩ := Option.mem_filter_iff.1 h
    exact contains_erase (d.local_mem i h) (by simpa using hne)
  master_mem i h := by
    obtain ⟨h, hne⟩ := Option.mem_filter_iff.1 h
    exact contains_erase (d.master_mem i h) (by simpa using hne)

/-- A directory in the making: nothing is checked yet. -/
structure Draft where
  nodes : List Node
  localId : Option NodeId
  masterId : Option NodeId

def toDraft (d : Directory) : Draft :=
  ⟨d.toList, d.localId, d.masterId⟩

/-- Collects nodes, stopping at the first one whose id is taken. -/
def collect : NodeTable → List Node → Except TopologyError NodeTable
  | s, [] => .ok s
  | s, node :: nodes =>
    if s.contains node.id then .error (.duplicateNode node.id) else collect (s.insert node) nodes

namespace Draft

def empty : Draft := ⟨[], none, none⟩

def add (draft : Draft) (nodes : List Node) : Draft :=
  { draft with nodes := draft.nodes ++ nodes }

def remove (draft : Draft) (id : NodeId) : Draft :=
  { draft with nodes := draft.nodes.filter fun node => node.id ≠ id }

/-- The first of the ids that is not in the table. -/
def missing? (s : NodeTable) (ids : List NodeId) : Option NodeId :=
  ids.find? fun id => !s.contains id

/-- Checks the nodes first, then the local node, then the master. -/
def build (draft : Draft) : Except TopologyError Directory :=
  match collect .empty draft.nodes with
  | .error e => .error e
  | .ok nodes =>
    match h : missing? nodes (draft.localId.toList ++ draft.masterId.toList) with
    | some id => .error (.unknownNode id)
    | none =>
      have present : ∀ id ∈ draft.localId.toList ++ draft.masterId.toList,
          nodes.contains id = true := fun id hid => by
        simpa using List.find?_eq_none.1 h id hid
      .ok {
        nodes
        localId := draft.localId
        masterId := draft.masterId
        local_mem := fun id hid => present id (by simp_all)
        master_mem := fun id hid => present id (by simp_all) }

end Draft

end Directory

end ClusterControl
