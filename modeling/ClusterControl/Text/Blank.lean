import ClusterControl.Text.Split

/-!
White space, and what is read around it.
-/

namespace ClusterControl.Text

/-- The characters with the Unicode property `White_Space`. -/
def isBlank (c : Char) : Bool :=
  let n := c.toNat
  (0x09 ≤ n && n ≤ 0x0d) || n = 0x20 || n = 0x85 || n = 0xa0 || n = 0x1680 ||
    (0x2000 ≤ n && n ≤ 0x200a) || n = 0x2028 || n = 0x2029 || n = 0x202f || n = 0x205f || n = 0x3000

theorem isBlank_of_isWhitespace {c : Char} (h : c.isWhitespace = true) : isBlank c = true := by
  simp only [Char.isWhitespace, Bool.or_eq_true, decide_eq_true_eq] at h
  rcases h with (((rfl | rfl) | rfl) | rfl) <;> decide

/-- Without the blanks at both ends. -/
def trim (cs : List Char) : List Char :=
  ((cs.dropWhile isBlank).reverse.dropWhile isBlank).reverse

/-- The items of a comma list, trimmed, empty ones dropped. -/
def commaItems (cs : List Char) : List (List Char) :=
  ((split ',' cs).map trim).filter fun item => !item.isEmpty

/-- The items of a comma list as texts. -/
def commaList (s : String) : List String :=
  (commaItems s.toList).map String.ofList

end ClusterControl.Text
