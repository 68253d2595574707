import StreamLinks.Text.Composition

/-!
# Characters that composition leaves alone

Composition looks at letters and their marks.  A character that consists of itself alone, is no
mark and goes together with no other one stays where it is, and what stands in front of it and
what stands behind it are composed as if the other were not there.
-/

namespace StreamLinks.Text

/-- The character has no parts, is no mark, and is no part of another one. -/
structure IsInert (c : Char) : Prop where
  parts : partsOf c = [c]
  rank : rankOf c = 0
  opens : ∀ d, composite? c d = none
  closes : ∀ d, composite? d c = none

variable {c d : Char} {front back marks : List Char}

/-- Of the characters of ASCII those that take no marks are inert. -/
theorem isInert_of_ascii (hascii : c.toNat < 0x80) (hplain : takesMarks c = false) :
    IsInert c where
  parts := if_pos (by omega)
  rank := if_pos (by omega)
  opens d := if_neg (by simp [hplain])
  closes d := if_neg (by simp; omega)

/-! ## The order of marks -/

theorem insertMark_of_rank (hrank : rankOf c = 0) (text : List Char) :
    insertMark c text = c :: text := by
  cases text with
  | nil => rfl
  | cons d rest => exact if_neg (by omega)

/-- No mark is brought past a character without a rank. -/
theorem insertMark_append (hrank : rankOf c = 0) (d : Char) (front back : List Char) :
    insertMark d (front ++ c :: back) = insertMark d front ++ c :: back := by
  induction front with
  | nil => exact if_neg (fun h => h.1 hrank)
  | cons mark front ih =>
      rw [List.cons_append, insertMark, insertMark]
      split
      next => rw [ih, List.cons_append]
      next => rfl

theorem orderMarks_append (hrank : rankOf c = 0) (front back : List Char) :
    orderMarks (front ++ c :: back) = orderMarks front ++ c :: orderMarks back := by
  induction front with
  | nil => exact insertMark_of_rank hrank _
  | cons d front ih =>
      calc orderMarks (d :: front ++ c :: back)
          = insertMark d (orderMarks front ++ c :: orderMarks back) := congrArg (insertMark d) ih
        _ = orderMarks (d :: front) ++ c :: orderMarks back := insertMark_append hrank d _ _

/-! ## Putting together -/

/-- Nothing is put together with an inert character, so marks behind it are left over. -/
theorem composeFrom_opening (hinert : IsInert c) (marks back : List Char) :
    composeFrom c marks back = c :: (marks ++ compose back) := by
  induction back generalizing marks with
  | nil => simp [composeFrom, compose]
  | cons d back ih =>
      have hnone : (if isBlocked marks d then none else composite? c d) = none := by
        rw [hinert.opens d, ite_self]
      rw [composeFrom, compose, hnone]
      dsimp only
      split
      next => rfl
      next => rw [ih, List.append_assoc, List.singleton_append]

theorem composeFrom_append (hinert : IsInert c) (letter : Char) (marks front back : List Char) :
    composeFrom letter marks (front ++ c :: back) =
      composeFrom letter marks front ++ c :: compose back := by
  induction front generalizing letter marks with
  | nil =>
      have hnone : (if isBlocked marks c then none else composite? letter c) = none := by
        rw [hinert.closes letter, ite_self]
      simp only [List.nil_append, composeFrom, hnone, if_pos hinert.rank,
        composeFrom_opening hinert, List.cons_append]
  | cons d front ih =>
      rw [List.cons_append, composeFrom, composeFrom]
      split
      next => exact ih _ _
      next =>
        split
        next => rw [ih, List.cons_append, List.append_assoc]
        next => exact ih _ _

theorem compose_append (hinert : IsInert c) (front back : List Char) :
    compose (front ++ c :: back) = compose front ++ c :: compose back := by
  induction front with
  | nil =>
      simp only [List.nil_append, compose, if_pos hinert.rank, composeFrom_opening hinert]
  | cons d front ih =>
      rw [List.cons_append, compose, compose]
      split
      next => exact composeFrom_append hinert d [] front back
      next => rw [ih, List.cons_append]

/-- A text is composed in front of an inert character and behind it. -/
theorem composed_append (hinert : IsInert c) (front back : List Char) :
    composed (front ++ c :: back) = composed front ++ c :: composed back := by
  rw [composed, List.flatMap_append, List.flatMap_cons, hinert.parts, List.singleton_append,
    orderMarks_append hinert.rank, compose_append hinert]
  rfl

theorem composed_cons (hinert : IsInert c) (text : List Char) :
    composed (c :: text) = c :: composed text :=
  composed_append hinert [] text

theorem mem_composed (hinert : IsInert c) {text : List Char} (hmem : c ∈ text) :
    c ∈ composed text := by
  obtain ⟨front, back, rfl⟩ := List.append_of_mem hmem
  rw [composed_append hinert]
  simp

end StreamLinks.Text
