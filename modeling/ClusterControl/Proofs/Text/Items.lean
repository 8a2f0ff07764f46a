import ClusterControl.Text.Blank
import Mathlib.Data.List.Infix
import Mathlib.Data.List.TakeWhile

/-!
What trimming and comma lists leave: texts with no blank at their ends, and items without a comma.
-/

namespace ClusterControl.Text

/-- No blank stands at either end. -/
def IsTrimmed (cs : List Char) : Prop :=
  (∀ c ∈ cs.head?, isBlank c = false) ∧ ∀ c ∈ cs.getLast?, isBlank c = false

/-- An item of a comma list. -/
structure IsItem (s : String) : Prop where
  nonempty : s ≠ ""
  trimmed : IsTrimmed s.toList
  comma : ',' ∉ s.toList

variable {c sep : Char} {cs piece : List Char} {s item : String}

theorem head?_dropWhile_isBlank (h : c ∈ (cs.dropWhile isBlank).head?) : isBlank c = false := by
  have hn := List.head?_dropWhile_not isBlank cs
  rwa [Option.mem_def.1 h] at hn

theorem trim_starts (cs : List Char) : trim cs <+: cs.dropWhile isBlank := by
  rw [trim, ← List.reverse_suffix, List.reverse_reverse]
  exact List.dropWhile_suffix isBlank

theorem isTrimmed_trim (cs : List Char) : IsTrimmed (trim cs) := by
  constructor
  · intro c hc
    obtain ⟨rest, hr⟩ := trim_starts cs
    have hd : c ∈ (cs.dropWhile isBlank).head? := by
      rw [← hr, List.head?_append, Option.mem_def.1 hc]
      rfl
    exact head?_dropWhile_isBlank hd
  · intro c hc
    rw [trim, List.getLast?_reverse] at hc
    exact head?_dropWhile_isBlank hc

theorem mem_of_mem_trim (h : c ∈ trim cs) : c ∈ cs :=
  (List.dropWhile_suffix isBlank).subset ((trim_starts cs).subset h)

theorem not_mem_of_mem_split (h : piece ∈ split sep cs) : sep ∉ piece := by
  induction cs generalizing piece with
  | nil =>
      rw [split, List.mem_singleton] at h
      simp [h]
  | cons c cs ih =>
      rw [split] at h
      split at h
      case isTrue =>
        rcases List.mem_cons.1 h with rfl | h
        · simp
        · exact ih h
      case isFalse hc =>
        split at h
        case h_1 =>
          rw [List.mem_singleton.1 h, List.mem_singleton]
          exact fun he => hc he.symm
        case h_2 first rest hs =>
          rcases List.mem_cons.1 h with rfl | h
          · have hfirst := ih (hs ▸ List.mem_cons_self)
            simpa [hfirst] using fun he => hc he.symm
          · exact ih (hs ▸ List.mem_cons_of_mem first h)

theorem isItem_of_mem_commaList (h : item ∈ commaList s) : IsItem item := by
  obtain ⟨cs, hcs, rfl⟩ := List.mem_map.1 h
  obtain ⟨hm, hn⟩ := List.mem_filter.1 hcs
  obtain ⟨piece, hp, rfl⟩ := List.mem_map.1 hm
  refine ⟨?_, ?_, ?_⟩
  · simpa using hn
  · rw [String.toList_ofList]
    exact isTrimmed_trim piece
  · rw [String.toList_ofList]
    exact fun hc => not_mem_of_mem_split hp (mem_of_mem_trim hc)

end ClusterControl.Text
