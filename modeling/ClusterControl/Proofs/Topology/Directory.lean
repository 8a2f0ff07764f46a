import ClusterControl.Proofs.Ordered.Sets
import ClusterControl.Topology.Directory

/-!
The nodes of a directory after one joins or leaves, and the node that an id or a name finds.
-/

namespace ClusterControl

namespace Directory

variable {d : Directory} {node other : Node} {id : NodeId}

theorem mem_insert : node ∈ (d.insert other).toList ↔ node = other ∨ node ∈ d.toList ∧ node.id ≠ other.id :=
  SortedBy.mem_insert

theorem mem_erase : node ∈ (d.erase id).toList ↔ node ∈ d.toList ∧ node.id ≠ id :=
  SortedBy.mem_erase

theorem contains_iff : d.contains id = true ↔ ∃ node ∈ d.toList, node.id = id :=
  SortedBy.contains_iff

theorem eq_of_id_eq (h : node ∈ d.toList) (h' : other ∈ d.toList) (he : node.id = other.id) : node = other :=
  SortedBy.eq_of_key_eq (s := d.nodes) h h' he

theorem find?_eq_some : d.find? id = some node ↔ node ∈ d.toList ∧ node.id = id :=
  SortedBy.find?_eq_some_iff

theorem find?_erase {other : NodeId} :
    (d.erase other).find? id = if id = other then none else d.find? id := by
  apply Option.ext
  intro node
  rw [find?_eq_some, mem_erase]
  split
  case isTrue he =>
    simp only [reduceCtorEq, iff_false]
    rintro ⟨⟨_, hn⟩, hid⟩
    exact hn (hid.trans he)
  case isFalse he =>
    rw [find?_eq_some]
    constructor
    · rintro ⟨⟨hm, _⟩, hid⟩
      exact ⟨hm, hid⟩
    · rintro ⟨hm, hid⟩
      exact ⟨⟨hm, hid ▸ he⟩, hid⟩

/-- No node of the same name has a lesser id. -/
def FirstOfName (d : Directory) (node : Node) : Prop :=
  ∀ other ∈ d.toList, other.name = node.name → KeyOrder.before other.id node.id = false

theorem findName?_eq_some {name : String} : d.findName? name = some node ↔
    node ∈ d.toList ∧ node.name = name ∧ d.FirstOfName node := by
  rw [findName?, toList, SortedBy.find?_toList_eq_some, FirstOfName]
  simp only [decide_eq_true_eq]
  refine and_congr_right fun _ => ⟨?_, ?_⟩
  · rintro ⟨rfl, h⟩
    exact ⟨rfl, h⟩
  · rintro ⟨rfl, h⟩
    exact ⟨rfl, h⟩

end Directory

end ClusterControl
