import ClusterControl.Proofs.Ordered.Dictionary
import ClusterControl.Proofs.Text.Wildcard
import ClusterControl.Proofs.Topology.Directory
import ClusterControl.Topology.Descriptor

/-!
Which nodes descriptions name. Reserved words come before ids, and ids before names, roles and attributes.
Whoever collects the ids that one description after the other brings finds the nodes that some description
names, and no others.
-/

namespace ClusterControl

theorem Role.ofName?_eq_some {s : String} {role : Role} : Role.ofName? s = some role ↔ role.name = s := by
  constructor
  · intro h
    simpa using List.find?_some h
  · rintro rfl
    exact Role.ofName?_name role

theorem Role.ofName?_eq_none {s : String} : Role.ofName? s = none ↔ ∀ role : Role, role.name ≠ s := by
  rw [Option.eq_none_iff_forall_ne_some]
  simp only [ne_eq, Role.ofName?_eq_some]

theorem Text.splitOnce_eq_some_iff {sep : Char} {cs l r : List Char} :
    splitOnce sep cs = some (l, r) ↔ cs = l ++ sep :: r ∧ sep ∉ l := by
  constructor
  · exact splitOnce_eq_some
  · rintro ⟨rfl, hl⟩
    induction l with
    | nil => simp [splitOnce]
    | cons c l ih =>
        rw [List.mem_cons, not_or] at hl
        rw [List.cons_append, splitOnce, if_neg (Ne.symm hl.1), ih hl.2]
        rfl

namespace Descriptor

/-- The description is no reserved word. -/
structure IsFree (s : String) : Prop where
  all : s ≠ "_all"
  localNode : s ≠ "_local"
  master : s ≠ "_master"

/-- The description is neither a reserved word nor an id. -/
structure IsPattern (d : Directory) (s : String) : Prop where
  free : IsFree s
  unknown : d.contains s = false

/-- What makes a description name a node. -/
inductive Names (d : Directory) (s : String) (node : Node) : Prop
  | all (h : s = "_all")
  | localNode (h : s = "_local") (hl : d.localId = some node.id)
  | master (h : s = "_master") (hm : d.masterId = some node.id)
  | id (hf : IsFree s) (h : s = node.id)
  | name (hp : IsPattern d s) (h : Wildcard.Covers s.toList node.name.toList)
  | holds (hp : IsPattern d s) (role : Role) (h : s = role.name ++ ":" ++ "true")
      (hr : node.hasRole role = true)
  | lacks (hp : IsPattern d s) (role : Role) (h : s = role.name ++ ":" ++ "false")
      (hr : node.hasRole role = false)
  | carries (hp : IsPattern d s) (key value : String) (h : s = key ++ ":" ++ value) (hk : ':' ∉ key.toList)
      (hn : ∀ role : Role, role.name ≠ key) (label content : String) (ha : node.valueOf? label = some content)
      (hl : Wildcard.Covers key.toList label.toList) (hc : Wildcard.Covers value.toList content.toList)

variable {d : Directory} {s key value : String} {node : Node} {role : Role}

theorem splitOnce_toList : Text.splitOnce ':' s.toList = some (key.toList, value.toList) ↔
    s = key ++ ":" ++ value ∧ ':' ∉ key.toList := by
  rw [Text.splitOnce_eq_some_iff, ← String.toList_inj]
  simp [String.toList_append]

theorem pairSelects_role (h : Role.ofName? key = some role) : pairSelects key value node = true ↔
    value = "true" ∧ node.hasRole role = true ∨ value = "false" ∧ node.hasRole role = false := by
  simp only [pairSelects, h]
  by_cases ht : value = "true"
  · subst ht
    simp
  · by_cases hf : value = "false"
    · subst hf
      simp
    · simp [ht, hf]

theorem pairSelects_attribute (h : Role.ofName? key = none) : pairSelects key value node = true ↔
    ∃ label content, node.valueOf? label = some content ∧ Wildcard.Covers key.toList label.toList ∧
      Wildcard.Covers value.toList content.toList := by
  simp only [pairSelects, h, List.any_eq_true, Bool.and_eq_true, Wildcard.accepts_iff, Prod.exists, Node.valueOf?,
    Dictionary.get?_eq_some_iff, SortedBy.mem_iff]

theorem patternSelects_iff : patternSelects s node = true ↔
    Wildcard.Covers s.toList node.name.toList ∨
      ∃ key value, s = key ++ ":" ++ value ∧ ':' ∉ key.toList ∧ pairSelects key value node = true := by
  rw [patternSelects, Bool.or_eq_true, Wildcard.accepts_iff]
  refine or_congr_right ?_
  constructor
  · intro h
    split at h
    case h_1 l r hs =>
      rw [← @String.toList_ofList l, ← @String.toList_ofList r, splitOnce_toList] at hs
      exact ⟨_, _, hs.1, hs.2, h⟩
    case h_2 => cases h
  · rintro ⟨key, value, hs, hk, h⟩
    rw [splitOnce_toList.2 ⟨hs, hk⟩]
    simpa using h

theorem parse_free (hf : IsFree s) : parse s = .text s := by
  simp only [parse, hf.all, hf.localNode, hf.master, if_false]

theorem selects_id (hf : IsFree s) (hc : d.contains s = true) :
    (parse s).selects d node = true ↔ node.id = s := by
  simp only [parse_free hf, selects, hc, if_true, decide_eq_true_eq]

theorem selects_pattern (hp : IsPattern d s) :
    (parse s).selects d node = true ↔ patternSelects s node = true := by
  simp only [parse_free hp.free, selects, hp.unknown, Bool.false_eq_true, if_false]

theorem Names.selects (h : Names d s node) (hd : node ∈ d.toList) : (parse s).selects d node = true := by
  cases h with
  | all h =>
      subst h
      rfl
  | localNode h hl =>
      subst h
      exact decide_eq_true hl
  | master h hm =>
      subst h
      exact decide_eq_true hm
  | id hf h => exact (selects_id hf (Directory.contains_iff.2 ⟨node, hd, h.symm⟩)).2 h.symm
  | name hp h => exact (selects_pattern hp).2 (patternSelects_iff.2 (.inl h))
  | holds hp role h hr =>
      refine (selects_pattern hp).2 (patternSelects_iff.2 (.inr ⟨_, _, h, ?_, ?_⟩))
      · cases role <;> decide
      · exact (pairSelects_role (Role.ofName?_name role)).2 (.inl ⟨rfl, hr⟩)
  | lacks hp role h hr =>
      refine (selects_pattern hp).2 (patternSelects_iff.2 (.inr ⟨_, _, h, ?_, ?_⟩))
      · cases role <;> decide
      · exact (pairSelects_role (Role.ofName?_name role)).2 (.inr ⟨rfl, hr⟩)
  | carries hp key value h hk hn label content ha hl hc =>
      refine (selects_pattern hp).2 (patternSelects_iff.2 (.inr ⟨key, value, h, hk, ?_⟩))
      exact (pairSelects_attribute (Role.ofName?_eq_none.2 hn)).2 ⟨label, content, ha, hl, hc⟩

theorem names_of_patternSelects (hp : IsPattern d s) (h : patternSelects s node = true) : Names d s node := by
  rcases patternSelects_iff.1 h with h | ⟨key, value, hs, hk, h⟩
  · exact .name hp h
  · cases hr : Role.ofName? key with
    | some role =>
        obtain rfl := Role.ofName?_eq_some.1 hr
        rcases (pairSelects_role hr).1 h with ⟨rfl, hh⟩ | ⟨rfl, hh⟩
        · exact .holds hp role hs hh
        · exact .lacks hp role hs hh
    | none =>
        obtain ⟨label, content, ha, hl, hc⟩ := (pairSelects_attribute hr).1 h
        exact .carries hp key value hs hk (Role.ofName?_eq_none.1 hr) label content ha hl hc

theorem names_of_selects (h : (parse s).selects d node = true) : Names d s node := by
  by_cases ha : s = "_all"
  · exact .all ha
  by_cases hl : s = "_local"
  · subst hl
    exact .localNode rfl (of_decide_eq_true h)
  by_cases hm : s = "_master"
  · subst hm
    exact .master rfl (of_decide_eq_true h)
  have hf : IsFree s := ⟨ha, hl, hm⟩
  cases hc : d.contains s with
  | true => exact .id hf ((selects_id hf hc).1 h).symm
  | false => exact names_of_patternSelects ⟨hf, hc⟩ ((selects_pattern ⟨hf, hc⟩).1 h)

theorem selects_iff (hd : node ∈ d.toList) : (parse s).selects d node = true ↔ Names d s node :=
  ⟨names_of_selects, fun h => h.selects hd⟩

end Descriptor

namespace Directory

def extend (found : SortedSet NodeId) (ids : List NodeId) : SortedSet NodeId :=
  ids.foldl SortedBy.insert found

def extendWith (d : Directory) (found : SortedSet NodeId) (chosen : Node → Bool) : SortedSet NodeId :=
  extend found ((d.toList.filter chosen).map Node.id)

def gatherPattern (d : Directory) (found : SortedSet NodeId) (s : String) : SortedSet NodeId :=
  let found := d.extendWith found fun node => Wildcard.accepts s node.name
  match Text.splitOnce ':' s.toList with
  | none => found
  | some (key, value) =>
    match Role.ofName? (String.ofList key) with
    | some role =>
      if String.ofList value = "true" then d.extendWith found fun node => node.hasRole role
      else if String.ofList value = "false" then d.extendWith found fun node => !node.hasRole role
      else found
    | none =>
      d.extendWith found fun node => node.attributes.toList.any fun (label, content) =>
        Wildcard.accepts (String.ofList key) label && Wildcard.accepts (String.ofList value) content

/-- Adds the ids that one description brings to those found before. -/
def gatherOne (d : Directory) (found : SortedSet NodeId) (s : String) : SortedSet NodeId :=
  if s = "_all" then extend found d.ids
  else if s = "_local" then extend found d.localId.toList
  else if s = "_master" then extend found d.masterId.toList
  else if d.contains s then found.insert s
  else d.gatherPattern found s

def gather (d : Directory) (descriptions : List String) : SortedSet NodeId :=
  if descriptions.isEmpty then .ofList d.ids else descriptions.foldl d.gatherOne .empty

/-- Looks up the ids that were gathered, and keeps the nodes that may vote. -/
def gatherMasterEligible (d : Directory) (descriptions : List String) : Except TopologyError (List Node) :=
  let nodes := ((d.gather descriptions).toList.filterMap d.find?).filter Node.isMasterEligible
  if nodes.isEmpty then .error (.noMasterEligible descriptions) else .ok nodes

variable {d : Directory} {s : String} {found : SortedSet NodeId} {id : NodeId} {node : Node}

theorem mem_extend {ids : List NodeId} : id ∈ extend found ids ↔ id ∈ found ∨ id ∈ ids :=
  SortedSet.mem_foldl_insert

theorem extend_congr {ids others : List NodeId} (h : ∀ id, id ∈ ids ↔ id ∈ others) :
    extend found ids = extend found others := by
  apply SortedBy.ext
  intro id
  rw [mem_extend, mem_extend, h]

theorem mem_chosen {chosen : Node → Bool} : id ∈ (d.toList.filter chosen).map Node.id ↔
    ∃ node ∈ d.toList, chosen node = true ∧ node.id = id := by
  simp only [List.mem_map, List.mem_filter, and_assoc]

theorem mem_extendWith {chosen : Node → Bool} : id ∈ d.extendWith found chosen ↔
    id ∈ found ∨ ∃ node ∈ d.toList, chosen node = true ∧ node.id = id := by
  rw [extendWith, mem_extend, mem_chosen]

theorem extendWith_extendWith {first second : Node → Bool} :
    d.extendWith (d.extendWith found first) second = d.extendWith found fun node => first node || second node := by
  apply SortedBy.ext
  intro id
  simp only [mem_extendWith, or_assoc, Bool.or_eq_true, or_and_right, and_or_left, exists_or]

theorem gatherPattern_eq : d.gatherPattern found s = d.extendWith found (Descriptor.patternSelects s) := by
  unfold gatherPattern
  cases hs : Text.splitOnce ':' s.toList with
  | none =>
      have h : Descriptor.patternSelects s = fun node => Wildcard.accepts s node.name := by
        funext node
        simp only [Descriptor.patternSelects, hs, Bool.or_false]
      rw [h]
  | some pair =>
      obtain ⟨key, value⟩ := pair
      have h : Descriptor.patternSelects s = fun node => Wildcard.accepts s node.name ||
          Descriptor.pairSelects (String.ofList key) (String.ofList value) node := by
        funext node
        simp only [Descriptor.patternSelects, hs]
      rw [h, ← extendWith_extendWith]
      dsimp only
      generalize d.extendWith found (fun node => Wildcard.accepts s node.name) = named
      generalize String.ofList key = key
      generalize String.ofList value = value
      unfold Descriptor.pairSelects
      cases Role.ofName? key with
      | none => rfl
      | some role =>
          dsimp only
          split
          case isTrue => rfl
          case isFalse =>
            split
            case isTrue => rfl
            case isFalse =>
              -- a role with neither of the two words brings nobody
              rw [extendWith, List.filter_false]
              rfl

/-- An id that is kept for a node of the directory brings that node. -/
theorem extend_present {kept : Option NodeId} (h : ∀ id ∈ kept, d.contains id = true) :
    extend found kept.toList = d.extendWith found fun node => kept = some node.id := by
  apply extend_congr
  intro id
  rw [mem_chosen, Option.mem_toList]
  constructor
  · intro hk
    obtain ⟨node, hn, rfl⟩ := contains_iff.1 (h id hk)
    exact ⟨node, hn, decide_eq_true hk, rfl⟩
  · rintro ⟨node, _, hk, rfl⟩
    exact of_decide_eq_true hk

theorem gatherOne_eq (d : Directory) (found : SortedSet NodeId) (s : String) :
    d.gatherOne found s = d.extendWith found ((Descriptor.parse s).selects d) := by
  unfold gatherOne Descriptor.parse
  split
  case isTrue =>
    have h : (Descriptor.selects d .all) = fun _ => true := rfl
    rw [h, extendWith, List.filter_true]
    rfl
  split
  case isTrue => exact extend_present d.local_mem
  split
  case isTrue => exact extend_present d.master_mem
  split
  case isTrue hc =>
    have h : Descriptor.selects d (.text s) = fun node : Node => some s = some node.id := by
      funext node
      simp only [Descriptor.selects, hc, if_true, Option.some.injEq, eq_comm]
    have hk : ∀ id ∈ some s, d.contains id = true := by
      rintro _ ⟨⟩
      exact hc
    rw [h, ← extend_present hk]
    rfl
  case isFalse hc =>
    have h : Descriptor.selects d (.text s) = Descriptor.patternSelects s := by
      funext node
      simp only [Descriptor.selects, hc]
      rfl
    rw [h, gatherPattern_eq]

theorem mem_foldl_gatherOne {descriptions : List String} : id ∈ descriptions.foldl d.gatherOne found ↔
    id ∈ found ∨ ∃ node ∈ d.toList,
      (descriptions.any fun s => (Descriptor.parse s).selects d node) = true ∧ node.id = id := by
  induction descriptions generalizing found with
  | nil => simp
  | cons s rest ih =>
      rw [List.foldl_cons, ih, gatherOne_eq, mem_extendWith, or_assoc]
      simp only [List.any_cons, Bool.or_eq_true, or_and_right, and_or_left, exists_or]

theorem mem_gather {descriptions : List String} :
    id ∈ d.gather descriptions ↔ ∃ node ∈ d.resolve descriptions, node.id = id := by
  unfold gather resolve
  split
  case isTrue =>
    rw [SortedSet.mem_ofList]
    exact List.mem_map
  case isFalse =>
    rw [mem_foldl_gatherOne]
    simp only [SortedBy.not_mem_empty, false_or, List.mem_filter, and_assoc]

theorem resolve_sublist (d : Directory) (descriptions : List String) : (d.resolve descriptions).Sublist d.toList := by
  unfold resolve
  split
  · exact List.Sublist.refl _
  · exact List.filter_sublist

theorem gather_toList (d : Directory) (descriptions : List String) :
    (d.gather descriptions).toList = (d.resolve descriptions).map Node.id := by
  have hs : ((d.resolve descriptions).map Node.id).Pairwise fun a b => KeyOrder.before a b = true :=
    List.pairwise_map.2 (d.nodes.sorted.sublist (resolve_sublist d descriptions))
  have he : d.gather descriptions = ⟨_, hs⟩ := by
    apply SortedBy.ext
    intro id
    rw [mem_gather, SortedBy.mem_iff, List.mem_map]
  rw [he]

theorem gatherMasterEligible_eq (d : Directory) (descriptions : List String) :
    d.gatherMasterEligible descriptions = d.resolveMasterEligible descriptions := by
  have h : ∀ nodes : List Node, nodes ⊆ d.toList → (nodes.map Node.id).filterMap d.find? = nodes := by
    intro nodes hn
    induction nodes with
    | nil => rfl
    | cons node nodes ih =>
        obtain ⟨hd, hn⟩ := List.cons_subset.1 hn
        rw [List.map_cons, List.filterMap_cons, find?_eq_some.2 ⟨hd, rfl⟩, ih hn]
  unfold gatherMasterEligible resolveMasterEligible
  rw [gather_toList, h _ (resolve_sublist d descriptions).subset]
  cases (d.resolve descriptions).filter Node.isMasterEligible <;> rfl

theorem mem_resolve {descriptions : List String} : node ∈ d.resolve descriptions ↔
    node ∈ d.toList ∧ (descriptions = [] ∨ ∃ s ∈ descriptions, Descriptor.Names d s node) := by
  unfold resolve
  split
  case isTrue h =>
    obtain rfl := List.isEmpty_iff.1 h
    simp
  case isFalse h =>
    have hne : descriptions ≠ [] := by simpa using h
    rw [List.mem_filter, List.any_eq_true]
    refine and_congr_right fun hd => ?_
    simp only [hne, false_or, Descriptor.selects_iff hd]

/-- What there is to say of the nodes that descriptions name and that may vote. -/
inductive ResolvesEligible (d : Directory) (descriptions : List String) : Except TopologyError (List Node) → Prop
  | some (nodes : List Node) (hne : nodes ≠ []) (ho : nodes.Pairwise fun a b => KeyOrder.before a.id b.id = true)
      (hm : ∀ node, node ∈ nodes ↔ node ∈ d.resolve descriptions ∧ node.isMasterEligible = true) :
      ResolvesEligible d descriptions (.ok nodes)
  | none (h : ∀ node ∈ d.resolve descriptions, node.isMasterEligible = false) :
      ResolvesEligible d descriptions (.error (.noMasterEligible descriptions))

theorem resolvesEligible (d : Directory) (descriptions : List String) :
    d.ResolvesEligible descriptions (d.resolveMasterEligible descriptions) := by
  unfold resolveMasterEligible
  split
  case h_1 he =>
    rw [List.filter_eq_nil_iff] at he
    exact .none fun node hn => by simpa using he node hn
  case h_2 nodes hne =>
    refine .some _ hne ?_ fun node => List.mem_filter
    exact (d.nodes.sorted.sublist (resolve_sublist d descriptions)).sublist List.filter_sublist

/-- Descriptions resolve to the nodes of the directory that at least one of them names, and none at all to
every node, in whatever order and however often they are given. Gathering ids one description after the
other finds the same, and those of the nodes that may vote come in the order of their ids, if there are any. -/
theorem descriptions_resolve (d : Directory) (descriptions : List String) :
    (∀ node, node ∈ d.resolve descriptions ↔
      node ∈ d.toList ∧ (descriptions = [] ∨ ∃ s ∈ descriptions, Descriptor.Names d s node)) ∧
    (d.gather descriptions).toList = (d.resolve descriptions).map Node.id ∧
    (∀ others, (∀ s, s ∈ others ↔ s ∈ descriptions) → d.gather others = d.gather descriptions) ∧
    d.gatherMasterEligible descriptions = d.resolveMasterEligible descriptions ∧
    d.ResolvesEligible descriptions (d.resolveMasterEligible descriptions) := by
  refine ⟨fun _ => mem_resolve, gather_toList d descriptions, ?_, gatherMasterEligible_eq d descriptions,
    resolvesEligible d descriptions⟩
  intro others h
  have hnil : others = [] ↔ descriptions = [] := by
    rw [List.eq_nil_iff_forall_not_mem, List.eq_nil_iff_forall_not_mem]
    simp only [h]
  apply SortedBy.ext
  intro id
  simp only [mem_gather, mem_resolve, hnil, h]

end Directory

end ClusterControl
