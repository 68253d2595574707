import Mathlib.Algebra.Group.Nat.Defs
import Mathlib.Data.List.Induction
import StreamLinks.Text.Integer
import StreamLinks.Proofs.Text.Letters

/-!
# What is written is read back

Decimal text of a natural number is read as that number, and a sign stands in
the text of an integer exactly where the integer is negative.
-/

namespace StreamLinks.Text

theorem natOfDigits_toDigits (n : Nat) : natOfDigits (Nat.toDigits 10 n) = n := by
  have h := Nat.ofDigitChars_toDigits (b := 10) (n := n) (by decide) (by decide)
  rwa [Nat.ofDigitChars_eq_foldl] at h

theorem isDigit_of_mem_toString {n : Nat} {c : Char} (hc : c ∈ (toString n).toList) :
    c.isDigit = true := by
  rw [Nat.toString_eq_repr, Nat.toList_repr] at hc
  exact Nat.isDigit_of_mem_toDigits (by decide) (by decide) hc

theorem readNat?_toString (n : Nat) : readNat? (toString n).toList = some n := by
  have hdigits : (toString n).toList.all Char.isDigit = true :=
    List.all_eq_true.mpr fun c hc => isDigit_of_mem_toString hc
  have hne : (toString n).toList.isEmpty = false := by
    simp
  rw [readNat?, hdigits, hne, Nat.toString_eq_repr, Nat.toList_repr, natOfDigits_toDigits]
  rfl

theorem int64OfInt?_toInt {n : Int} {value : Int64} (h : int64OfInt? n = some value) :
    value.toInt = n := by
  unfold int64OfInt? at h
  split at h
  next hrange =>
    cases h
    exact Int64.toInt_ofInt_of_le hrange.1 (Int.lt_of_le_of_lt hrange.2 (by decide))
  next => cases h

theorem readInt?_of_digits {digits : List Char} (hdigits : ∀ c ∈ digits, c.isDigit = true) :
    readInt? digits = (readNat? digits).map fun n : Nat => (n : Int) := by
  unfold readInt?
  split
  · exact absurd (hdigits '-' (by simp)) (by decide)
  · exact absurd (hdigits '+' (by simp)) (by decide)
  · rfl

/-- Digits without a sign denote no negative integer. -/
theorem readInt64?_digits_nonneg {digits : List Char} {value : Int64}
    (hdigits : ∀ c ∈ digits, c.isDigit = true) (h : readInt64? digits = some value) :
    0 ≤ value.toInt := by
  obtain ⟨m, hm, hvalue⟩ := Option.bind_eq_some_iff.mp h
  rw [readInt?_of_digits hdigits] at hm
  obtain ⟨n, _, rfl⟩ := Option.map_eq_some_iff.mp hm
  rw [int64OfInt?_toInt hvalue]
  exact Int.natCast_nonneg n

theorem toInt_ofInt_natCast {n : Nat} (hn : n < 2 ^ 63) : (Int64.ofInt n).toInt = n := by
  have hmin : Int64.minValue.toInt = -2 ^ 63 := by decide
  exact Int64.toInt_ofInt_of_le (by omega) (by omega)

/-- An integer that is not negative is a natural number of 63 bits. -/
theorem exists_ofInt_of_nonneg {value : Int64} (hvalue : 0 ≤ value.toInt) :
    ∃ n < 2 ^ 63, value = Int64.ofInt (n : Nat) := by
  have hlt := value.toInt_lt
  refine ⟨value.toInt.toNat, by omega, ?_⟩
  rw [Int.toNat_of_nonneg hvalue, Int64.ofInt_toInt]

theorem writeInt64_ofInt {n : Nat} (hn : n < 2 ^ 63) :
    writeInt64 (Int64.ofInt n) = toString n := by
  rw [writeInt64, toInt_ofInt_natCast hn]
  rfl

theorem readInt64?_toString {n : Nat} (hn : n < 2 ^ 63) :
    readInt64? (toString n).toList = some (Int64.ofInt n) := by
  have hrange : Int64.minValue.toInt ≤ (n : Int) ∧ (n : Int) ≤ Int64.maxValue.toInt := by
    have hmin : Int64.minValue.toInt = -2 ^ 63 := by decide
    have hmax : Int64.maxValue.toInt = 2 ^ 63 - 1 := by decide
    omega
  rw [readInt64?, readInt?_of_digits (fun c hc => isDigit_of_mem_toString hc),
    readNat?_toString]
  exact if_pos hrange

theorem natOfDigits_lt {digits : List Char} (hdigits : ∀ c ∈ digits, c.isDigit = true) :
    natOfDigits digits < 10 ^ digits.length := by
  induction digits using List.reverseRecOn with
  | nil => decide
  | append_singleton digits c ih =>
      have hrest := ih fun d hd => hdigits d (List.mem_append_left _ hd)
      have hc := isDigit_iff.mp (hdigits c (by simp))
      have hzero : '0'.toNat = 48 := rfl
      rw [natOfDigits, List.foldl_append, List.foldl_cons, List.foldl_nil, ← natOfDigits,
        List.length_append, List.length_singleton, Nat.pow_succ]
      omega

/-- No digits without a sign write an integer in less space than its own text. -/
theorem length_writeInt64_le {digits : List Char} {value : Int64}
    (hdigits : ∀ c ∈ digits, c.isDigit = true) (h : readInt64? digits = some value) :
    (writeInt64 value).toList.length ≤ digits.length := by
  obtain ⟨m, hm, hvalue⟩ := Option.bind_eq_some_iff.mp h
  rw [readInt?_of_digits hdigits] at hm
  obtain ⟨n, hn, rfl⟩ := Option.map_eq_some_iff.mp hm
  unfold readNat? at hn
  split at hn
  · cases hn
  next hsome =>
    cases hn
    have hne : digits ≠ [] := by
      rintro rfl
      exact hsome rfl
    have hwritten : writeInt64 value = toString (natOfDigits digits) := by
      rw [writeInt64, int64OfInt?_toInt hvalue]
      rfl
    rw [hwritten, Nat.toString_eq_repr, Nat.toList_repr,
      Nat.length_toDigits_le_iff (by decide) (List.length_pos_iff.mpr hne)]
    exact natOfDigits_lt hdigits

/-- A text that denotes a negative integer has a sign. -/
theorem minus_mem_of_readInt64?_neg {text : List Char} {value : Int64}
    (h : readInt64? text = some value) (hneg : value.toInt < 0) : '-' ∈ text := by
  obtain ⟨m, hm, hvalue⟩ := Option.bind_eq_some_iff.mp h
  rw [int64OfInt?_toInt hvalue] at hneg
  unfold readInt? at hm
  split at hm
  · exact List.mem_cons_self
  · obtain ⟨n, _, rfl⟩ := Option.map_eq_some_iff.mp hm
    omega
  · obtain ⟨n, _, rfl⟩ := Option.map_eq_some_iff.mp hm
    omega

/-- An integer is written with digits, and with a sign only when negative. -/
theorem mem_writeInt64 {value : Int64} {c : Char} (hc : c ∈ (writeInt64 value).toList) :
    c.isDigit = true ∨ c = '-' ∧ value.toInt < 0 := by
  unfold writeInt64 at hc
  cases hvalue : value.toInt with
  | ofNat n =>
      rw [hvalue] at hc
      exact .inl (isDigit_of_mem_toString hc)
  | negSucc n =>
      rw [hvalue] at hc
      change c ∈ ("-" ++ toString (n + 1)).toList at hc
      rw [String.toList_append] at hc
      rcases List.mem_append.mp hc with hsign | hdigit
      · refine .inr ⟨by simpa using hsign, Int.negSucc_lt_zero n⟩
      · exact .inl (isDigit_of_mem_toString hdigit)

end StreamLinks.Text
