import JniBindings.Identifier
import JniBindings.Text.Blank
/-!
# Words

A word is made of ASCII letters, digits and underscores. The code points of these characters are
given by `isAlphanum_iff`, from which everything else about them follows.
-/

namespace JniBindings

/-- One or more letters, digits and underscores. -/
def IsWord (s : String) : Prop := s.toList ≠ [] ∧ s.toList.all isWordChar

instance (s : String) : Decidable (IsWord s) := inferInstanceAs (Decidable (_ ∧ _))

theorem isAlphanum_iff {c : Char} :
    c.isAlphanum ↔ (65 ≤ c.toNat ∧ c.toNat ≤ 90) ∨ (97 ≤ c.toNat ∧ c.toNat ≤ 122)
      ∨ (48 ≤ c.toNat ∧ c.toNat ≤ 57) := by
  change ((decide (65 ≤ c.val ∧ c.val ≤ 90) || (97 ≤ c.val && c.val ≤ 122))
    || (48 ≤ c.val && c.val ≤ 57)) = true ↔ _
  simp only [Bool.or_eq_true, Bool.and_eq_true, decide_eq_true_eq, UInt32.le_iff_toNat_le, or_assoc]
  exact Iff.rfl

theorem toNat_of_isWordChar {c : Char} (h : isWordChar c) : 48 ≤ c.toNat ∧ c.toNat ≤ 122 := by
  simp only [isWordChar, Bool.or_eq_true, decide_eq_true_eq, isAlphanum_iff] at h
  rcases h with h | rfl
  · omega
  · decide

theorem isBlank_eq_false_of_isWordChar {c : Char} (h : isWordChar c) : Text.isBlank c = false := by
  obtain ⟨hlow, hhigh⟩ := toNat_of_isWordChar h
  simp [Text.isBlank]
  omega

/-- A character that stands in no word does not stand in a given one. -/
theorem IsWord.not_mem {s : String} (h : IsWord s) {c : Char} (hc : isWordChar c = false) :
    c ∉ s.toList := by
  intro hmem
  have hword := List.all_eq_true.1 h.2 c hmem
  rw [hc] at hword
  cases hword

end JniBindings
