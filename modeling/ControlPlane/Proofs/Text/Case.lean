import Mathlib
import ControlPlane.Text.Blank

/-! ASCII letters in lower case: what stands for itself, and which characters come out. -/

namespace ControlPlane.Text

/-- No digit is a letter. -/
theorem isAlpha_of_isDigit {c : Char} (digit : c.isDigit = true) : c.isAlpha = false := by
  -- The digits lie below the letters of either case.
  simp only [Char.isDigit, ge_iff_le, Bool.and_eq_true, decide_eq_true_eq,
    UInt32.le_iff_toNat_le] at digit
  simp only [Char.isAlpha, Char.isUpper, Char.isLower, ge_iff_le, Bool.or_eq_false_iff,
    Bool.and_eq_false_iff, decide_eq_false_iff_not, UInt32.le_iff_toNat_le]
  simp at digit ⊢
  omega

/-- A character that is no letter stands for itself. -/
theorem toLower_of_not_isAlpha {c : Char} (plain : c.isAlpha = false) : c.toLower = c := by
  -- Letters in upper case are letters.
  apply Char.toLower_eq_of_not_isUpper
  intro upper
  simp [Char.isAlpha, upper] at plain

/-- A lower-case letter or a digit stands for itself. -/
theorem toLower_eq_self {c : Char} (plain : (c.isLower || c.isDigit) = true) : c.toLower = c := by
  -- There are lower-case letters, which stay, and digits, which are no letters.
  rcases Bool.or_eq_true_iff.mp plain with lower | digit
  · exact Char.toLower_eq_of_not_isUpper (Char.not_isUpper_of_isLower lower)
  · exact toLower_of_not_isAlpha (isAlpha_of_isDigit digit)

/-- A character that is no letter is the lower-case form of itself alone. -/
theorem toLower_eq_iff {c mark : Char} (plain : mark.isAlpha = false) :
    c.toLower = mark ↔ c = mark := by
  -- The lower-case form is a letter just if the character is one, and the mark is none.
  have letters := Char.isAlpha_toLower_eq_isAlpha c
  constructor
  · intro same
    rw [same, plain] at letters
    rw [← same, toLower_of_not_isAlpha letters.symm]
  · intro same
    rw [same, toLower_of_not_isAlpha plain]

/-- The lower-case form of a letter or a digit is a lower-case letter or a digit, and no other
character has such a form. -/
@[simp] theorem isLower_or_isDigit_toLower (c : Char) :
    (c.toLower.isLower || c.toLower.isDigit) = c.isAlphanum := by
  -- A letter comes out as a lower-case letter, and anything else comes out as itself.
  rw [Char.isLower_toLower_eq_isAlpha, Char.isAlphanum]
  cases letter : c.isAlpha with
  | true => rfl
  | false => rw [toLower_of_not_isAlpha letter]

/-- Where the ASCII letters and digits stand among all characters. -/
theorem toNat_of_isAlphanum {c : Char} (letter : c.isAlphanum = true) :
    48 ≤ c.toNat ∧ c.toNat ≤ 57 ∨ 65 ≤ c.toNat ∧ c.toNat ≤ 90 ∨
      97 ≤ c.toNat ∧ c.toNat ≤ 122 := by
  -- The tests compare numbers, as does the claim.
  simp only [Char.isAlphanum, Char.isAlpha, Char.isUpper, Char.isLower, Char.isDigit, ge_iff_le,
    Bool.or_eq_true, Bool.and_eq_true, decide_eq_true_eq, UInt32.le_iff_toNat_le] at letter
  change ((65 ≤ c.toNat ∧ c.toNat ≤ 90) ∨ (97 ≤ c.toNat ∧ c.toNat ≤ 122)) ∨
    (48 ≤ c.toNat ∧ c.toNat ≤ 57) at letter
  omega

/-- No letter or digit is a blank. -/
theorem isBlank_of_isAlphanum {c : Char} (letter : c.isAlphanum = true) : isBlank c = false := by
  have place := toNat_of_isAlphanum letter
  rw [← Bool.not_eq_true]
  intro blank
  -- The blanks stand in front of the digits or behind all letters.
  simp only [isBlank, Bool.or_eq_true, Bool.and_eq_true, decide_eq_true_eq, beq_iff_eq,
    UInt32.le_iff_toNat_le, ← UInt32.toNat_inj] at blank
  simp at blank
  omega

end ControlPlane.Text
