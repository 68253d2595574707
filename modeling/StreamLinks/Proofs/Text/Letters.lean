import StreamLinks.Text.Space
import StreamLinks.Text.Word

/-!
# Letters and digits

Which characters are letters and digits, in terms of their codes, and that word characters
are no white space.
-/

namespace StreamLinks.Text

variable {c : Char}

theorem isUpper_iff : c.isUpper = true ↔ 0x41 ≤ c.toNat ∧ c.toNat ≤ 0x5A := by
  have hupper : c.isUpper = true ↔ 'A'.val ≤ c.val ∧ c.val ≤ 'Z'.val := decide_eq_true_iff
  rw [hupper, UInt32.le_iff_toNat_le, UInt32.le_iff_toNat_le]
  rfl

theorem toLower_eq_self (hc : c.toNat < 0x41 ∨ 0x5A < c.toNat) : c.toLower = c := by
  have hupper : ¬ ('A'.val ≤ c.val ∧ c.val ≤ 'Z'.val) := by
    intro h
    have hrange := isUpper_iff.mp (decide_eq_true h)
    omega
  exact dif_neg hupper

theorem isLower_iff : c.isLower = true ↔ 0x61 ≤ c.toNat ∧ c.toNat ≤ 0x7A := by
  have hlower : c.isLower = (decide ('a'.val ≤ c.val) && decide (c.val ≤ 'z'.val)) := rfl
  rw [hlower, Bool.and_eq_true, decide_eq_true_iff, decide_eq_true_iff, UInt32.le_iff_toNat_le,
    UInt32.le_iff_toNat_le]
  rfl

theorem isAlpha_iff :
    c.isAlpha = true ↔
      0x41 ≤ c.toNat ∧ c.toNat ≤ 0x5A ∨ 0x61 ≤ c.toNat ∧ c.toNat ≤ 0x7A := by
  have halpha : c.isAlpha = (c.isUpper || c.isLower) := rfl
  rw [halpha, Bool.or_eq_true, isUpper_iff, isLower_iff]

theorem isDigit_iff : c.isDigit = true ↔ 0x30 ≤ c.toNat ∧ c.toNat ≤ 0x39 :=
  Char.isDigit_iff_toNat

theorem isAlphanum_iff :
    c.isAlphanum = true ↔
      (0x41 ≤ c.toNat ∧ c.toNat ≤ 0x5A ∨ 0x61 ≤ c.toNat ∧ c.toNat ≤ 0x7A) ∨
        0x30 ≤ c.toNat ∧ c.toNat ≤ 0x39 := by
  have halphanum : c.isAlphanum = (c.isAlpha || c.isDigit) := rfl
  rw [halphanum, Bool.or_eq_true, isAlpha_iff, isDigit_iff]

/-- No range of word characters reaches over white space. -/
theorem wordRanges_beside_spaces : ∀ range ∈ wordRanges,
    0x3000 < range.1 ∨ 0x80 ≤ range.1 ∧
      (0xA0 < range.1 ∧ range.2 < 0x1680 ∨ 0x1680 < range.1 ∧ range.2 < 0x2000 ∨
        0x200A < range.1 ∧ range.2 < 0x2028 ∨ 0x202F < range.1 ∧ range.2 < 0x205F ∨
        0x205F < range.1 ∧ range.2 < 0x3000) := by
  decide +kernel

theorem isWord_of_isSpace {c : Char} (hc : isSpace c = true) : isWord c = false := by
  simp only [isSpace, Bool.or_eq_true, Bool.and_eq_true, decide_eq_true_eq, beq_iff_eq] at hc
  unfold isWord
  split
  next hascii =>
    have halphanum : ¬ c.isAlphanum = true := by
      rw [isAlphanum_iff]
      omega
    have hunderscore : c ≠ '_' := by
      rintro rfl
      exact absurd hc (by decide)
    simp [halphanum, hunderscore]
  next hascii =>
    rw [inRanges, List.any_eq_false]
    intro range hrange
    have hbeside := wordRanges_beside_spaces range hrange
    simp only [Bool.and_eq_true, decide_eq_true_eq]
    omega
end StreamLinks.Text
