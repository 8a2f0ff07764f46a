import ClusterControl.Allocation.Rule

/-!
What the answer of a chain says of the answers of its rules: whether or not every rule is asked, the chain says
yes exactly if each of them does, and no exactly if one of them does.
-/

namespace ClusterControl

namespace Decision

section Single

variable {label text : String}

@[simp] theorem isYes_yes : yes.isYes = true := rfl

@[simp] theorem isNo_yes : yes.isNo = false := rfl

@[simp] theorem isYes_allow : (allow label text).isYes = true := rfl

@[simp] theorem isNo_allow : (allow label text).isNo = false := rfl

@[simp] theorem isYes_delay : (delay label text).isYes = false := rfl

@[simp] theorem isNo_delay : (delay label text).isNo = false := rfl

@[simp] theorem isYes_refuse : (refuse label text).isYes = false := rfl

@[simp] theorem isNo_refuse : (refuse label text).isNo = true := rfl

end Single

theorem worse_eq_yes {a b : Outcome} : a.worse b = .yes ↔ a = .yes ∧ b = .yes := by
  cases a <;> cases b <;> simp [Outcome.worse]

theorem worst_eq_yes {parts : List Decision} : worst parts = .yes ↔ ∀ d ∈ parts, d.outcome = .yes := by
  induction parts with
  | nil => simp [worst]
  | cons d parts ih => rw [worst, worse_eq_yes, ih, List.forall_mem_cons]

theorem isYes_multi {parts : List Decision} : (multi parts).isYes = true ↔ ∀ d ∈ parts, d.isYes = true := by
  simp only [isYes, outcome, decide_eq_true_eq, worst_eq_yes]

theorem worse_ne_no {a b : Outcome} : a.worse b ≠ .no ↔ a ≠ .no ∧ b ≠ .no := by
  cases a <;> cases b <;> simp [Outcome.worse]

theorem worst_ne_no {parts : List Decision} : worst parts ≠ .no ↔ ∀ d ∈ parts, d.outcome ≠ .no := by
  induction parts with
  | nil => simp [worst]
  | cons d parts ih => rw [worst, worse_ne_no, ih, List.forall_mem_cons]

theorem not_isNo {d : Decision} : d.isNo = false ↔ d.outcome ≠ .no :=
  decide_eq_false_iff_not

theorem not_isNo_multi {parts : List Decision} : (multi parts).isNo = false ↔ ∀ d ∈ parts, d.isNo = false := by
  simp only [not_isNo, outcome, worst_ne_no]

theorem isNo_of_isYes {d : Decision} (h : d.isYes = true) : d.isNo = false := by
  simp only [isYes, decide_eq_true_eq] at h
  simp [isNo, h]

end Decision

namespace Chain

variable {chain : Chain} {ask : Rule → Decision} {answers : List Decision}

theorem firstObstacle_isYes : (firstObstacle answers).isYes = true ↔ ∀ d ∈ answers, d.isYes = true := by
  unfold firstObstacle
  cases hno : answers.find? Decision.isNo with
  | some d =>
      have hd : d.isNo = true := List.find?_some hno
      have hyes : d.isYes = false := by
        simp only [Decision.isNo, decide_eq_true_eq] at hd
        simp [Decision.isYes, hd]
      refine iff_of_false (by simp [hyes]) fun hall => ?_
      rw [hall d (List.mem_of_find?_eq_some hno)] at hyes
      cases hyes
  | none =>
      cases hlate : answers.find? fun d => d.outcome = .throttle with
      | some d =>
          have hd : d.outcome = .throttle := by simpa using List.find?_some hlate
          have hyes : d.isYes = false := by simp [Decision.isYes, hd]
          refine iff_of_false (by simp [hyes]) fun hall => ?_
          rw [hall d (List.mem_of_find?_eq_some hlate)] at hyes
          cases hyes
      | none =>
          refine iff_of_true rfl fun d hd => ?_
          have hnot := List.find?_eq_none.1 hno d hd
          have hnow := List.find?_eq_none.1 hlate d hd
          simp only [Decision.isNo, decide_eq_true_eq] at hnot hnow
          cases ho : d.outcome <;> simp_all [Decision.isYes]

/-- A chain that is cut short at a refusal has that refusal in it. -/
theorem forall_untilRefusal : (∀ rule ∈ chain.untilRefusal ask, (ask rule).isYes = true) ↔
    ∀ rule ∈ chain, (ask rule).isYes = true := by
  induction chain with
  | nil => rfl
  | cons rule rules ih =>
      rw [untilRefusal]
      split
      case isTrue hno =>
        have hyes : ¬ (ask rule).isYes = true := by
          simp only [Decision.isNo, decide_eq_true_eq] at hno
          simp [Decision.isYes, hno]
        simp [hyes]
      case isFalse => rw [List.forall_mem_cons, List.forall_mem_cons, ih]

theorem combine_isYes {explain : Bool} : (chain.combine explain ask).isYes = true ↔
    ∀ rule ∈ chain, (ask rule).isYes = true := by
  cases explain with
  | true => simp [combine, consulted, Decision.isYes_multi]
  | false => simp [combine, consulted, firstObstacle_isYes, forall_untilRefusal]

theorem firstObstacle_not_isNo : (firstObstacle answers).isNo = false ↔ ∀ d ∈ answers, d.isNo = false := by
  unfold firstObstacle
  cases hno : answers.find? Decision.isNo with
  | some d =>
      have hd : d.isNo = true := List.find?_some hno
      refine iff_of_false (by simp [hd]) fun hall => ?_
      rw [hall d (List.mem_of_find?_eq_some hno)] at hd
      cases hd
  | none =>
      refine iff_of_true ?_ fun d hd => by simpa using List.find?_eq_none.1 hno d hd
      rw [Option.orElse_none]
      cases hlate : answers.find? fun d => d.outcome = .throttle with
      | some d =>
          have hd : d.outcome = .throttle := by simpa using List.find?_some hlate
          simp [Decision.isNo, hd]
      | none => rfl

theorem forall_untilRefusal_not_isNo : (∀ rule ∈ chain.untilRefusal ask, (ask rule).isNo = false) ↔
    ∀ rule ∈ chain, (ask rule).isNo = false := by
  induction chain with
  | nil => rfl
  | cons rule rules ih =>
      rw [untilRefusal]
      split
      case isTrue hno => simp [hno]
      case isFalse => rw [List.forall_mem_cons, List.forall_mem_cons, ih]

theorem combine_not_isNo {explain : Bool} : (chain.combine explain ask).isNo = false ↔
    ∀ rule ∈ chain, (ask rule).isNo = false := by
  cases explain with
  | true => simp [combine, consulted, Decision.not_isNo_multi]
  | false => simp [combine, consulted, firstObstacle_not_isNo, forall_untilRefusal_not_isNo]

end Chain

end ClusterControl
