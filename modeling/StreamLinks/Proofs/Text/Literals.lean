import StreamLinks.Proofs.Text.Pieces

/-!
# Occurrences of a literal

A literal whose first character does not come again in it never overlaps itself.  So an
occurrence divides a text: what is found in front of it and behind it is what is found there
without the rest, and each part is replaced on its own.
-/

namespace StreamLinks.Text

/-- How often a literal occurs in a text. -/
def occurrences (literal text : List Char) : Nat :=
  (afterEach literal text).length

/-- The first character of the literal does not come again in it. -/
def StartsOnce : (literal : List Char) → Prop
  | [] => False
  | mark :: tail => mark ∉ tail

section

variable {literal front text replacement : List Char} {mark c : Char}

theorem isSome_after?_iff : (after? literal text).isSome = true ↔ literal <+: text := by
  rw [Option.isSome_iff_exists]
  constructor
  · rintro ⟨rest, hrest⟩
    exact ⟨rest, (after?_eq_some.mp hrest).symm⟩
  · rintro ⟨rest, hrest⟩
    exact ⟨rest, after?_eq_some.mpr hrest.symm⟩

theorem after?_eq_none (hnone : ¬ literal <+: text) : after? literal text = none := by
  rw [← Option.not_isSome_iff_eq_none, isSome_after?_iff]
  exact hnone

theorem occurrences_cons_of_starts (hstarts : literal <+: c :: text) :
    occurrences literal (c :: text) = occurrences literal text + 1 := by
  obtain ⟨rest, hrest⟩ := Option.isSome_iff_exists.mp (isSome_after?_iff.mpr hstarts)
  simp [occurrences, afterEach, hrest]

theorem occurrences_cons_of_not_starts (hstarts : ¬ literal <+: c :: text) :
    occurrences literal (c :: text) = occurrences literal text := by
  simp [occurrences, afterEach, after?_eq_none hstarts]

theorem occurrences_front (hfront : mark ∉ front) (tail text : List Char) :
    occurrences (mark :: tail) (front ++ text) = occurrences (mark :: tail) text := by
  induction front with
  | nil => rfl
  | cons c front ih =>
      rw [List.mem_cons, not_or] at hfront
      have hstarts : ¬ mark :: tail <+: c :: (front ++ text) :=
        fun h => hfront.1 (List.cons_prefix_cons.mp h).1
      rw [List.cons_append, occurrences_cons_of_not_starts hstarts, ih hfront.2]

theorem occurrences_pos_iff : 0 < occurrences literal text ↔ literal <:+: text := by
  induction text with
  | nil => cases literal <;> simp [occurrences, afterEach]
  | cons c text ih =>
      rw [List.infix_cons_iff]
      by_cases hstarts : literal <+: c :: text
      · simp [occurrences_cons_of_starts hstarts, hstarts]
      · simp [occurrences_cons_of_not_starts hstarts, hstarts, ih]

theorem replaceFrom_of_not_starts (hstarts : ¬ literal <+: c :: text)
    (replacement : List Char) :
    replaceFrom literal replacement 0 (c :: text) =
      c :: replaceFrom literal replacement 0 text := by
  rw [replaceFrom, after?_eq_none hstarts]
  rfl

theorem replaceFrom_of_no_occurrence (hnone : occurrences literal text = 0)
    (replacement : List Char) : replaceFrom literal replacement 0 text = text := by
  induction text with
  | nil => rfl
  | cons c text ih =>
      have hstarts : ¬ literal <+: c :: text := by
        intro h
        rw [occurrences_cons_of_starts h] at hnone
        cases hnone
      rw [occurrences_cons_of_not_starts hstarts] at hnone
      rw [replaceFrom_of_not_starts hstarts, ih hnone]

/-- A text in which the literal occurs is divided by its first occurrence. -/
theorem exists_first_occurrence (hsome : occurrences literal text ≠ 0) (hne : literal ≠ []) :
    ∃ front rest, text = front ++ (literal ++ rest) ∧ occurrences literal front = 0 := by
  have hnil : occurrences literal [] = 0 := by
    cases literal with
    | nil => contradiction
    | cons mark tail => rfl
  induction text with
  | nil => exact (hsome hnil).elim
  | cons c text ih =>
      by_cases hstarts : literal <+: c :: text
      · obtain ⟨rest, hrest⟩ := hstarts
        exact ⟨[], rest, hrest.symm, hnil⟩
      · rw [occurrences_cons_of_not_starts hstarts] at hsome
        obtain ⟨front, rest, rfl, hnone⟩ := ih hsome
        have hfront : ¬ literal <+: c :: front :=
          fun h => hstarts (h.trans (List.prefix_append (c :: front) _))
        exact ⟨c :: front, rest, rfl, by rw [occurrences_cons_of_not_starts hfront, hnone]⟩

end

/-! ## Literals that do not overlap themselves -/

namespace StartsOnce

variable {literal : List Char} (hliteral : StartsOnce literal)

include hliteral

theorem ne_nil : literal ≠ [] := by
  rintro rfl
  exact hliteral

/-- An occurrence that begins in front of another one ends in front of it. -/
theorem prefix_append_iff {front : List Char} (hfront : front ≠ []) (rest : List Char) :
    literal <+: front ++ (literal ++ rest) ↔ literal <+: front := by
  refine ⟨fun hstarts => ?_, fun hstarts => hstarts.trans (List.prefix_append _ _)⟩
  rcases List.prefix_or_prefix_of_prefix hstarts (List.prefix_append front _) with h | h
  · exact h
  · obtain ⟨last, hlast⟩ := h
    cases last with
    | nil =>
        have hwhole : front = literal := by rwa [List.append_nil] at hlast
        exact hwhole ▸ List.prefix_refl front
    | cons d last =>
        -- Behind `front` the literal would begin once more within itself.
        cases literal with
        | nil => exact hliteral.elim
        | cons mark tail =>
            rw [← hlast, List.prefix_append_right_inj, hlast] at hstarts
            obtain ⟨rfl, -⟩ := List.cons_prefix_cons.mp hstarts
            cases front with
            | nil => contradiction
            | cons c front =>
                obtain ⟨-, htail⟩ := List.cons.inj hlast
                exact (hliteral (by simp [← htail])).elim

theorem occurrences_append (front rest : List Char) :
    occurrences literal (front ++ (literal ++ rest)) =
      occurrences literal front + 1 + occurrences literal rest := by
  induction front with
  | nil =>
      cases literal with
      | nil => exact hliteral.elim
      | cons mark tail =>
          have hstarts : mark :: tail <+: mark :: (tail ++ rest) := List.prefix_append _ rest
          have hnil : occurrences (mark :: tail) [] = 0 := rfl
          rw [List.nil_append, List.cons_append, occurrences_cons_of_starts hstarts,
            occurrences_front hliteral, hnil]
          omega
  | cons c front ih =>
      have hiff := hliteral.prefix_append_iff (List.cons_ne_nil c front) rest
      rw [List.cons_append] at hiff ⊢
      by_cases hstarts : literal <+: c :: front
      · rw [occurrences_cons_of_starts (hiff.mpr hstarts), occurrences_cons_of_starts hstarts, ih]
        omega
      · rw [occurrences_cons_of_not_starts (mt hiff.mp hstarts),
          occurrences_cons_of_not_starts hstarts, ih]

theorem replaceFrom_append (replacement front rest : List Char) :
    replaceFrom literal replacement 0 (front ++ (literal ++ rest)) =
      replaceFrom literal replacement 0 front ++
        (replacement ++ replaceFrom literal replacement 0 rest) := by
  -- An occurrence found in front may leave some of its characters to be skipped.
  suffices h : ∀ skip ≤ front.length,
      replaceFrom literal replacement skip (front ++ (literal ++ rest)) =
        replaceFrom literal replacement skip front ++
          (replacement ++ replaceFrom literal replacement 0 rest) from h 0 (Nat.zero_le _)
  induction front with
  | nil =>
      intro skip hskip
      rw [Nat.le_zero.mp hskip, List.nil_append]
      cases literal with
      | nil => exact hliteral.elim
      | cons mark tail => exact replaceFrom_literal mark tail replacement rest
  | cons c front ih =>
      intro skip hskip
      cases skip with
      | succ skip => exact ih skip (Nat.le_of_succ_le_succ hskip)
      | zero =>
          have hiff := hliteral.prefix_append_iff (List.cons_ne_nil c front) rest
          rw [List.cons_append] at hiff ⊢
          by_cases hstarts : literal <+: c :: front
          · have hlength : literal.length - 1 ≤ front.length := by
              have hle := hstarts.length_le
              rw [List.length_cons] at hle
              omega
            rw [replaceFrom, replaceFrom, if_pos (isSome_after?_iff.mpr hstarts),
              if_pos (isSome_after?_iff.mpr (hiff.mpr hstarts)), ih _ hlength]
            simp only [List.append_assoc]
          · rw [replaceFrom_of_not_starts hstarts,
              replaceFrom_of_not_starts (mt hiff.mp hstarts), ih 0 (Nat.zero_le _),
              List.cons_append]

/-- Each occurrence makes room for one replacement. -/
theorem length_replaceFrom (replacement text : List Char) :
    (replaceFrom literal replacement 0 text).length +
        literal.length * occurrences literal text =
      text.length + replacement.length * occurrences literal text := by
  induction hn : text.length using Nat.strongRecOn generalizing text with
  | _ n ih =>
      by_cases hnone : occurrences literal text = 0
      · rw [replaceFrom_of_no_occurrence hnone, hnone, hn]
        rfl
      · obtain ⟨front, rest, rfl, hfront⟩ := exists_first_occurrence hnone hliteral.ne_nil
        have hpos := List.length_pos_iff.mpr hliteral.ne_nil
        have hrest := ih rest.length (by simp at hn; omega) rest rfl
        rw [hliteral.replaceFrom_append, replaceFrom_of_no_occurrence hfront,
          hliteral.occurrences_append, hfront, ← hn]
        simp only [List.length_append, Nat.mul_add, Nat.mul_one, Nat.zero_add]
        omega

/-- Replacing by something of the same length leaves a text as it is only if there is nothing
to replace or nothing changes. -/
theorem replaceFrom_eq_self_iff {replacement text : List Char}
    (hlength : replacement.length = literal.length) :
    replaceFrom literal replacement 0 text = text ↔
      replacement = literal ∨ occurrences literal text = 0 := by
  induction hn : text.length using Nat.strongRecOn generalizing text with
  | _ n ih =>
      by_cases hnone : occurrences literal text = 0
      · simp [replaceFrom_of_no_occurrence hnone, hnone]
      · obtain ⟨front, rest, rfl, hfront⟩ := exists_first_occurrence hnone hliteral.ne_nil
        have hpos := List.length_pos_iff.mpr hliteral.ne_nil
        have hrest := ih rest.length (by simp at hn; omega) rfl
        rw [hliteral.replaceFrom_append, replaceFrom_of_no_occurrence hfront,
          List.append_cancel_left_eq, List.append_eq_append_iff_of_size_eq_left hlength, hrest]
        tauto

end StartsOnce

end StreamLinks.Text
