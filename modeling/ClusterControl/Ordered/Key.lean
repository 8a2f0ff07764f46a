/-!
Strict linear orders decided by a Boolean. They order what is kept sorted: node ids, shard ids,
exclusions.
-/

namespace ClusterControl

class KeyOrder (κ : Type) where
  before : κ → κ → Bool
  irrefl : ∀ a, before a a = false
  trans : ∀ {a b c}, before a b = true → before b c = true → before a c = true
  connex : ∀ {a b}, before a b = false → before b a = false → a = b

namespace KeyOrder

variable {κ μ : Type}

theorem ne_of_before [KeyOrder κ] {a b : κ} (h : before a b = true) : a ≠ b := by
  rintro rfl
  simp [irrefl] at h

theorem not_before_of_before [KeyOrder κ] {a b : κ} (h : before a b = true) :
    before b a = false := by
  cases hb : before b a with
  | false => rfl
  | true => exact absurd rfl (ne_of_before (trans h hb))

/-- The order that a key with no two equal values gives to what it names. -/
@[reducible] def ofKey [KeyOrder κ] (key : μ → κ) (inj : ∀ a b, key a = key b → a = b) : KeyOrder μ where
  before a b := before (key a) (key b)
  irrefl a := irrefl (key a)
  trans := trans
  connex h h' := inj _ _ (connex h h')

instance : KeyOrder Nat where
  before a b := decide (a < b)
  irrefl a := by simp
  trans h h' := by simp at *; omega
  connex h h' := by simp at *; omega

/-- Texts are ordered by code points. -/
instance : KeyOrder String where
  before a b := decide (a < b)
  irrefl a := by simp
  trans h h' := by
    simp only [decide_eq_true_eq] at *
    exact String.lt_trans h h'
  connex h h' := by
    simp only [decide_eq_false_iff_not, String.not_lt] at *
    exact String.le_antisymm h' h

/-- An absent value comes before a present one. -/
instance [KeyOrder κ] : KeyOrder (Option κ) where
  before
    | none, some _ => true
    | some a, some b => before a b
    | _, none => false
  irrefl
    | none => rfl
    | some a => irrefl a
  trans {a b c} h h' := by
    cases a <;> cases b <;> cases c <;> simp_all
    exact trans h h'
  connex {a b} h h' := by
    cases a <;> cases b <;> simp_all
    exact connex h h'

/-- Pairs are ordered by their first parts, and by the second where the first are equal. -/
instance [KeyOrder κ] [KeyOrder μ] : KeyOrder (κ × μ) where
  before a b := before a.1 b.1 || (!before b.1 a.1 && before a.2 b.2)
  irrefl a := by simp [irrefl]
  trans {a b c} h h' := by
    simp only [Bool.or_eq_true, Bool.and_eq_true, Bool.not_eq_true'] at *
    rcases h with h | ⟨h₁, h₂⟩ <;> rcases h' with h' | ⟨h₁', h₂'⟩
    · exact .inl (trans h h')
    · cases hb : before b.1 c.1 with
      | true => exact .inl (trans h hb)
      | false => rw [connex h₁' hb]; exact .inl h
    · cases hb : before a.1 b.1 with
      | true => exact .inl (trans hb h')
      | false => rw [connex hb h₁]; exact .inl h'
    · cases hb : before a.1 b.1 with
      | true =>
        cases hc : before b.1 c.1 with
        | true => exact .inl (trans hb hc)
        | false => rw [connex h₁' hc]; exact .inl hb
      | false =>
        rw [connex hb h₁]
        exact .inr ⟨h₁', trans h₂ h₂'⟩
  connex {a b} h h' := by
    simp only [Bool.or_eq_false_iff, Bool.and_eq_false_iff, Bool.not_eq_false'] at *
    obtain ⟨h₁, h₂⟩ := h
    obtain ⟨h₁', h₂'⟩ := h'
    have he := connex h₁ h₁'
    simp_all
    exact Prod.ext he (connex h₂ h₂')

end KeyOrder

end ClusterControl
