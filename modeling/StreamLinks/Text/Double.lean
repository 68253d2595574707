/-!
# The range of double precision

Numbers without a fraction are compared with the largest finite double by
exact arithmetic.
-/

namespace StreamLinks.Text

/-- The numbers from here on round to infinity in double precision. -/
def doubleLimit : Nat := Nat.pow 2 1024 - Nat.pow 2 970

/-- The multiple of a power of two nearest to `n` that has at most 53
significant bits; of two equally near ones the even one. -/
def roundToDouble (n : Nat) : Nat :=
  let unit := Nat.pow 2 (n.log2 + 1 - 53)
  let down := n / unit
  let twice := 2 * (n % unit)
  if twice < unit ∨ (twice = unit ∧ down % 2 = 0) then down * unit else (down + 1) * unit

end StreamLinks.Text
