import ClusterControl.Allocation.Registry
import ClusterControl.Proofs.Allocation.Verdict

/-!
Explanations. A chain that explains itself asks every rule and returns all of their answers; else it stops at the
first refusal. Both come to the same outcome, and what stands in the way in the short answer is the first of all
answers that come to it. That holds of every chain of rules that answer alike whether or not they explain, as the
rules that come with the cluster do.
-/

namespace ClusterControl

namespace Decision

variable {parts : List Decision} {d : Decision}

/-- A full answer, made of these parts, and a short one to the same question: the short one is the first part that
comes to the outcome of all, or a bare yes where every part is a yes. -/
structure Explains (parts : List Decision) (full short : Decision) : Prop where
  whole : full = .multi parts
  outcome : full.outcome = short.outcome
  obstacle : full.outcome ≠ .yes → parts.find? (fun d => d.outcome = full.outcome) = some short
  free : full.outcome = .yes → (∀ d ∈ parts, d.outcome = .yes) ∧ short = .yes

theorem explains_of_obstacle (ho : d.outcome ≠ .yes) (hw : worst parts = d.outcome)
    (hf : parts.find? (fun a => a.outcome = d.outcome) = some d) : Explains parts (multi parts) d := by
  have hmulti : (multi parts).outcome = d.outcome := by rw [outcome, hw]
  refine ⟨rfl, hmulti, fun _ => ?_, fun hyes => absurd (hmulti.symm.trans hyes) ho⟩
  rw [hmulti]
  exact hf

theorem explains_refusal (hf : parts.find? isNo = some d) : Explains parts (multi parts) d := by
  have hd : d.outcome = .no := by simpa [isNo] using List.find?_some hf
  have hw : worst parts = .no :=
    Decidable.byContradiction fun hw => worst_ne_no.1 hw d (List.mem_of_find?_eq_some hf) hd
  refine explains_of_obstacle (by simp [hd]) (hw.trans hd.symm) ?_
  rw [hd]
  exact hf

theorem explains_delay (hno : parts.find? isNo = none)
    (hf : parts.find? (fun d => d.outcome = .throttle) = some d) : Explains parts (multi parts) d := by
  have hd : d.outcome = .throttle := by simpa using List.find?_some hf
  have hfree : worst parts ≠ .no :=
    worst_ne_no.2 fun a ha => not_isNo.1 (by simpa using List.find?_eq_none.1 hno a ha)
  have hbusy : worst parts ≠ .yes := by
    intro hyes
    have hdy := worst_eq_yes.1 hyes d (List.mem_of_find?_eq_some hf)
    rw [hd] at hdy
    cases hdy
  have hw : worst parts = .throttle := by
    cases ho : worst parts <;> simp_all
  refine explains_of_obstacle (by simp [hd]) (hw.trans hd.symm) ?_
  rw [hd]
  exact hf

theorem explains_yes (hno : parts.find? isNo = none)
    (hlate : parts.find? (fun d => d.outcome = .throttle) = none) : Explains parts (multi parts) .yes := by
  have hall : ∀ d ∈ parts, d.outcome = .yes := by
    intro d hd
    have hnot := List.find?_eq_none.1 hno d hd
    have hnow := List.find?_eq_none.1 hlate d hd
    simp only [isNo, decide_eq_true_eq] at hnot hnow
    cases ho : d.outcome <;> simp_all
  have hyes : (multi parts).outcome = .yes := by rw [outcome, worst_eq_yes.2 hall]
  exact ⟨rfl, hyes, fun hn => absurd hyes hn, fun _ => ⟨hall, rfl⟩⟩

end Decision

namespace Chain

variable {chain : Chain} {ask tell answer : Rule → Decision}

theorem explains_firstObstacle (answers : List Decision) :
    Decision.Explains answers (.multi answers) (firstObstacle answers) := by
  unfold firstObstacle
  cases hno : answers.find? Decision.isNo with
  | some d => exact Decision.explains_refusal hno
  | none =>
      cases hlate : answers.find? fun d => d.outcome = .throttle with
      | some d => exact Decision.explains_delay hno hlate
      | none => exact Decision.explains_yes hno hlate

theorem untilRefusal_eq (h : ∀ rule ∈ chain, (ask rule).isNo = false) : chain.untilRefusal ask = chain := by
  induction chain with
  | nil => rfl
  | cons rule rules ih =>
      obtain ⟨hrule, hrules⟩ := List.forall_mem_cons.1 h
      rw [untilRefusal, hrule, if_neg Bool.false_ne_true, ih hrules]

theorem find?_isNo_untilRefusal (chain : Chain) (ask : Rule → Decision) :
    ((chain.untilRefusal ask).map ask).find? Decision.isNo = (chain.map ask).find? Decision.isNo := by
  induction chain with
  | nil => rfl
  | cons rule rules ih =>
      rw [untilRefusal]
      cases hrule : (ask rule).isNo with
      | true => simp [hrule]
      | false => simpa [hrule] using ih

theorem firstObstacle_untilRefusal (chain : Chain) (ask : Rule → Decision) :
    firstObstacle ((chain.untilRefusal ask).map ask) = firstObstacle (chain.map ask) := by
  cases hno : (chain.map ask).find? Decision.isNo with
  | some d => simp only [firstObstacle, find?_isNo_untilRefusal, hno, Option.orElse_some]
  | none =>
      have hfree : ∀ rule ∈ chain, (ask rule).isNo = false := by
        intro rule hrule
        simpa using List.find?_eq_none.1 hno (ask rule) (List.mem_map_of_mem hrule)
      rw [untilRefusal_eq hfree]

theorem combine_explains (htell : ∀ rule ∈ chain, tell rule = answer rule)
    (hask : ∀ rule ∈ chain, ask rule = answer rule) :
    Decision.Explains (chain.map answer) (chain.combine true tell) (chain.combine false ask) := by
  have hfull : chain.combine true tell = .multi (chain.map answer) := by
    simp only [combine, consulted, if_true, List.map_congr_left htell]
  have hshort : chain.combine false ask = firstObstacle (chain.map answer) := by
    simp only [combine, consulted, Bool.false_eq_true, if_false, firstObstacle_untilRefusal,
      List.map_congr_left hask]
  rw [hfull, hshort]
  exact explains_firstObstacle _

end Chain

/-- The rule answers alike whether or not it is asked to explain. -/
structure Rule.Candid (rule : Rule) : Prop where
  allocate : ∀ r explain c node, rule.allocate { r with explain } c node = rule.allocate r c node
  remain : ∀ r explain c node, rule.remain { r with explain } c node = rule.remain r c node
  rebalanceCopy : ∀ r explain c, rule.rebalanceCopy { r with explain } c = rule.rebalanceCopy r c
  rebalance : ∀ r explain, rule.rebalance { r with explain } = rule.rebalance r

namespace Rules

variable {r : Round} {c : ShardCopy} {node : Node}

theorem resizeObstacle?_explain (explain : Bool) (source : String) (numbers : List Nat) :
    resizeObstacle? { r with explain } node source numbers = resizeObstacle? r node source numbers := by
  induction numbers with
  | nil => rfl
  | cons n numbers ih => simp only [resizeObstacle?, ih]

theorem resize_candid : resize.Candid := by
  refine ⟨fun r explain c node => ?_, fun _ _ _ _ => rfl, fun _ _ _ => rfl, fun _ _ => rfl⟩
  simp only [resize, resizeObstacle?_explain]
  rfl

theorem spreadObstacle?_explain (explain coming : Bool) (total : Nat) (keys : List String) :
    spreadObstacle? coming { r with explain } c node total keys = spreadObstacle? coming r c node total keys := by
  induction keys with
  | nil => rfl
  | cons key keys ih =>
      rw [spreadObstacle?, spreadObstacle?, ih]
      rfl

theorem awareness_candid : awareness.Candid := by
  have hspread : ∀ coming r explain c node,
      spreadsEvenly coming { r with explain } c node = spreadsEvenly coming r c node := by
    intro coming r explain c node
    simp only [spreadsEvenly, spreadObstacle?_explain]
    rfl
  exact ⟨hspread true, hspread false, fun _ _ _ => rfl, fun _ _ => rfl⟩

theorem builtin_candid : ∀ rule ∈ builtin, rule.Candid := by
  simp only [builtin, List.forall_mem_cons]
  refine ⟨?_, resize_candid, ?_, ?_, ?_, ?_, ?_, ?_, ?_, ?_, ?_, ?_, ?_, ?_, ?_, awareness_candid,
    fun _ h => absurd h List.not_mem_nil⟩
  all_goals exact ⟨fun _ _ _ _ => rfl, fun _ _ _ _ => rfl, fun _ _ _ => rfl, fun _ _ => rfl⟩

end Rules

/-- Whatever its rules answer, a chain that explains an answer comes to the answer that it gives otherwise. -/
theorem Chain.explanation_agrees {chain : Chain} (h : ∀ rule ∈ chain, rule.Candid) (r : Round) (c : ShardCopy)
    (node : Node) :
    Decision.Explains (chain.map fun rule => rule.allocate r c node)
        (chain.canAllocate { r with explain := true } c node)
        (chain.canAllocate { r with explain := false } c node) ∧
      Decision.Explains (chain.map fun rule => rule.remain r c node)
        (chain.canRemain { r with explain := true } c node)
        (chain.canRemain { r with explain := false } c node) ∧
      Decision.Explains (chain.map fun rule => rule.rebalanceCopy r c)
        (chain.canRebalanceCopy { r with explain := true } c)
        (chain.canRebalanceCopy { r with explain := false } c) ∧
      Decision.Explains (chain.map fun rule => rule.rebalance r)
        (chain.canRebalance { r with explain := true })
        (chain.canRebalance { r with explain := false }) := by
  refine ⟨?_, ?_, ?_, ?_⟩
  · exact combine_explains (fun rule hm => (h rule hm).allocate r true c node)
      fun rule hm => (h rule hm).allocate r false c node
  · exact combine_explains (fun rule hm => (h rule hm).remain r true c node)
      fun rule hm => (h rule hm).remain r false c node
  · exact combine_explains (fun rule hm => (h rule hm).rebalanceCopy r true c)
      fun rule hm => (h rule hm).rebalanceCopy r false c
  · exact combine_explains (fun rule hm => (h rule hm).rebalance r true)
      fun rule hm => (h rule hm).rebalance r false

namespace Chain

/-- A rule beside those of the cluster, with reasons within reasons: copies may neither come nor stay. -/
def maintenance : Rule where
  name := "maintenance"
  allocate _ _ _ := .multi [.allow "maintenance" "known node", .multi [.delay "maintenance" "upgrading"]]
  remain _ _ _ := .multi [.delay "maintenance" "upgrading", .multi [.yes, .refuse "maintenance" "retired"]]

def maintained : Chain :=
  Rules.builtin ++ [maintenance]

/-- The rules of the cluster let a copy come and stay, so the short answers are those of the rule beside them. -/
theorem maintenance_explained :
    let r := Round.start .initial Settings.initial.allocation .empty
    let c := ShardCopy.placeholder ⟨"logs", 0⟩ 0
    let node := Node.bare "a" "a"
    (∀ rule ∈ maintained, rule.Candid) ∧
      (maintained.map fun rule => rule.allocate r c node).find? (fun d => d.outcome = .throttle) =
        some (maintained.canAllocate r c node) ∧
      (maintained.map fun rule => rule.remain r c node).find? (fun d => d.outcome = .no) =
        some (maintained.canRemain r c node) ∧
      (∀ d ∈ maintained.map fun rule => rule.rebalance r, d.outcome = .yes) ∧
      maintained.canRebalance r = .yes := by
  intro r c node
  have hcandid : ∀ rule ∈ maintained, rule.Candid := by
    refine List.forall_mem_append.2 ⟨Rules.builtin_candid, List.forall_mem_singleton.2 ?_⟩
    exact ⟨fun _ _ _ _ => rfl, fun _ _ _ _ => rfl, fun _ _ _ => rfl, fun _ _ => rfl⟩
  obtain ⟨hallocate, hremain, -, hrebalance⟩ := explanation_agrees hcandid r c node
  have hbusy : (maintained.canAllocate { r with explain := true } c node).outcome = .throttle := by decide +kernel
  have hretired : (maintained.canRemain { r with explain := true } c node).outcome = .no := by decide +kernel
  have hfree : (maintained.canRebalance { r with explain := true }).outcome = .yes := by decide +kernel
  refine ⟨hcandid, ?_, ?_, hrebalance.free hfree⟩
  · have hfound := hallocate.obstacle (by rw [hbusy]; decide)
    rwa [hbusy] at hfound
  · have hfound := hremain.obstacle (by rw [hretired]; decide)
    rwa [hretired] at hfound

end Chain

end ClusterControl
