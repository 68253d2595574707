import Mathlib.Data.Option.Basic
import StreamLinks.Page
import StreamLinks.Proofs.Text.Pieces
import StreamLinks.Proofs.Text.Runs

/-!
# The first place of a page

A page is searched from left to right for a place where something is found.  The place
is described by how the page decomposes there, and by nothing being found before it.
-/

namespace StreamLinks.Page

variable {text rest : List Char} {mark : Char}

/-- The first text among the shorter and shorter ends of a page that satisfies the
predicate, with what stands in front of it. -/
structure FirstPlace (p : List Char → Prop) (page front place : List Char) : Prop where
  page_eq : page = front ++ place
  found : p place
  first : ∀ front' place', page = front' ++ place' → front'.length < front.length → ¬ p place'

theorem FirstPlace.cons {p : List Char → Prop} {page front place : List Char} {c : Char}
    (hplace : FirstPlace p page front place) (hc : ¬ p (c :: page)) :
    FirstPlace p (c :: page) (c :: front) place where
  page_eq := by rw [hplace.page_eq, List.cons_append]
  found := hplace.found
  first front' place' hpage hlength := by
    cases front' with
    | nil =>
        rw [List.nil_append] at hpage
        rwa [← hpage]
    | cons d front' =>
        obtain ⟨-, hrest⟩ := List.cons.inj hpage
        exact hplace.first front' place' hrest (Nat.lt_of_succ_lt_succ hlength)

theorem FirstPlace.of_cons {p : List Char → Prop} {page front place : List Char} {c : Char}
    (hplace : FirstPlace p (c :: page) (c :: front) place) :
    FirstPlace p page front place ∧ ¬ p (c :: page) := by
  refine ⟨⟨(List.cons.inj hplace.page_eq).2, hplace.found, ?_⟩, ?_⟩
  · intro front' place' hpage hlength
    exact hplace.first (c :: front') place' (by rw [hpage, List.cons_append])
      (Nat.succ_lt_succ hlength)
  · exact hplace.first [] (c :: page) rfl (Nat.succ_pos _)

/-- The search gives what is found at the first place where anything is. -/
theorem firstInTails_eq_some {α : Type} {find? : List Char → Option α} {page : List Char} {a : α} :
    firstInTails find? page = some a ↔
      ∃ front place, FirstPlace (fun text => (find? text).isSome) page front place ∧
        find? place = some a := by
  induction page with
  | nil =>
      constructor
      · intro hfind
        have hfound : find? [] = some a := hfind
        exact ⟨[], [], ⟨rfl, by rw [hfound]; rfl, by simp⟩, hfound⟩
      · rintro ⟨front, place, hplace, hfound⟩
        obtain ⟨rfl, rfl⟩ := List.append_eq_nil_iff.mp hplace.page_eq.symm
        exact hfound
  | cons c page ih =>
      have hhere : firstInTails find? (c :: page) =
          (find? (c :: page)).or (firstInTails find? page) := by
        rw [firstInTails]
        cases find? (c :: page) <;> rfl
      rw [hhere, Option.or_eq_some_iff, ih]
      constructor
      · rintro (hfound | ⟨hnone, front, place, hplace, hfound⟩)
        · exact ⟨[], c :: page, ⟨rfl, by rw [hfound]; rfl, by simp⟩, hfound⟩
        · exact ⟨c :: front, place, hplace.cons (by simp [hnone]), hfound⟩
      · rintro ⟨front, place, hplace, hfound⟩
        cases front with
        | nil =>
            rw [hplace.page_eq]
            exact .inl hfound
        | cons d front =>
            obtain ⟨rfl, -⟩ := List.cons.inj hplace.page_eq
            obtain ⟨hrest, hnone⟩ := hplace.of_cons
            exact .inr ⟨by simpa using hnone, front, place, hrest, hfound⟩

/-- Something is found at the first place of the page where anything is. -/
def FirstWith {α : Type} (r : List Char → α → Prop) (page : List Char) (a : α) : Prop :=
  ∃ front place, FirstPlace (fun text => ∃ a, r text a) page front place ∧ r place a

theorem firstInTails_iff {α : Type} {find? : List Char → Option α} {r : List Char → α → Prop}
    (hfind : ∀ {text a}, find? text = some a ↔ r text a) {page : List Char} {a : α} :
    firstInTails find? page = some a ↔ FirstWith r page a := by
  have hfound : (fun text => (find? text).isSome = true) = fun text => ∃ a, r text a := by
    funext text
    rw [Option.isSome_iff_exists]
    exact propext (exists_congr fun a => hfind)
  rw [firstInTails_eq_some, hfound]
  simp only [hfind]
  rfl

theorem isGap_skipped (text : List Char) :
    ∃ gap, Text.IsGap gap ∧ text = gap ++ skipSpace text :=
  Text.exists_gap text

theorem skipSpace_append {gap : List Char} (hgap : Text.IsGap gap)
    (hrest : ∀ c, rest.head? = some c → Text.isSpace c = false) :
    skipSpace (gap ++ rest) = rest :=
  (hgap.isRun hrest).dropWhile_eq

theorem afterMark?_eq_some (hmark : Text.isSpace mark = false) :
    afterMark? mark text = some rest ↔
      ∃ gap gap', Text.IsGap gap ∧ Text.IsGap gap' ∧ text = gap ++ mark :: (gap' ++ rest) ∧
        ∀ c, rest.head? = some c → Text.isSpace c = false := by
  unfold afterMark?
  constructor
  · intro hafter
    obtain ⟨behind, hbehind, rfl⟩ := Option.map_eq_some_iff.mp hafter
    obtain ⟨gap, hgap, htext⟩ := isGap_skipped text
    obtain ⟨gap', hgap', hrest⟩ := isGap_skipped behind
    have hmarked := Text.after?_eq_some.mp hbehind
    have hstops : ∀ c, (skipSpace behind).head? = some c → Text.isSpace c = false := by
      intro c hc
      have hnot := List.head?_dropWhile_not Text.isSpace behind
      unfold skipSpace at hc
      rw [hc] at hnot
      simpa using hnot
    refine ⟨gap, gap', hgap, hgap', ?_, hstops⟩
    rw [← hrest, ← List.singleton_append, ← hmarked, ← htext]
  · rintro ⟨gap, gap', hgap, hgap', rfl, hrest⟩
    have hfront : skipSpace (gap ++ mark :: (gap' ++ rest)) = mark :: (gap' ++ rest) := by
      apply skipSpace_append hgap
      intro c hc
      rw [List.head?_cons, Option.some.injEq] at hc
      rwa [← hc]
    have hbehind : Text.after? [mark] (mark :: (gap' ++ rest)) = some (gap' ++ rest) :=
      Text.after?_eq_some.mpr rfl
    rw [hfront, hbehind, Option.map_some, skipSpace_append hgap' hrest]

end StreamLinks.Page
