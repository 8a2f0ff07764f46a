/-!
Reading decimal integers within bounds. The characters are taken from the left, so of two faults
the one further left is reported.
-/

namespace ClusterControl.Numeral

inductive Fault
  | empty
  | invalidDigit
  | tooLarge
  | tooSmall
  deriving DecidableEq, Repr

def Fault.message : Fault → String
  | empty => "cannot parse integer from empty string"
  | invalidDigit => "invalid digit found in string"
  | tooLarge => "number too large to fit in target type"
  | tooSmall => "number too small to fit in target type"

/-- Reads digits behind the number `n`, refusing with `fault` what exceeds `bound`. -/
def digits (bound : Nat) (fault : Fault) (n : Nat) : List Char → Except Fault Nat
  | [] => .ok n
  | c :: cs =>
    if c.isDigit then
      let n := n * 10 + (c.toNat - '0'.toNat)
      if bound < n then .error fault else digits bound fault n cs
    else .error .invalidDigit

/-- A natural number up to `bound`, with or without a plus sign. -/
def nat (bound : Nat) : List Char → Except Fault Nat
  | [] => .error .empty
  | ['+'] => .error .invalidDigit
  | '+' :: cs => digits bound .tooLarge 0 cs
  | cs => digits bound .tooLarge 0 cs

/-- An integer from `-below` up to `bound`, with or without a sign. -/
def int (below bound : Nat) : List Char → Except Fault Int
  | ['-'] => .error .invalidDigit
  | '-' :: cs => (digits below .tooSmall 0 cs).map fun n => -(n : Int)
  | cs => (nat bound cs).map Int.ofNat

theorem digits_le {bound n m : Nat} {fault : Fault} {cs : List Char} (hn : n ≤ bound)
    (h : digits bound fault n cs = .ok m) : m ≤ bound := by
  induction cs generalizing n with
  | nil =>
    cases h
    exact hn
  | cons c cs ih =>
    unfold digits at h
    grind

end ClusterControl.Numeral
