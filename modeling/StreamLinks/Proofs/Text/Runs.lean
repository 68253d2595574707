import StreamLinks.Text.Pieces
import StreamLinks.Text.Space

/-!
# Longest runs of characters

Words, digits and white space are taken as far as they go.  A run is a text
whose characters all satisfy a predicate, in front of a rest that does not go on
with such a character; a text splits in only one way into a run and a rest.
-/

namespace StreamLinks.Text

/-- `run` is all that `run ++ rest` starts with of the characters satisfying `p`. -/
structure IsRun (p : Char → Bool) (run rest : List Char) : Prop where
  all : ∀ c ∈ run, p c = true
  stops : ∀ c, rest.head? = some c → p c = false

theorem stops_of_cons {p : Char → Bool} {c : Char} (hc : p c = false) (rest : List Char) :
    ∀ d, (c :: rest).head? = some d → p d = false := by
  intro d hd
  rw [List.head?_cons, Option.some.injEq] at hd
  rwa [← hd]

namespace IsRun

variable {p : Char → Bool} {run rest run' rest' : List Char}

theorem takeWhile_eq (hrun : IsRun p run rest) : (run ++ rest).takeWhile p = run := by
  rw [List.takeWhile_append_of_pos hrun.all]
  cases rest with
  | nil => simp
  | cons c rest =>
      have hc : p c = false := hrun.stops c rfl
      simp [hc]

theorem dropWhile_eq (hrun : IsRun p run rest) : (run ++ rest).dropWhile p = rest := by
  rw [List.dropWhile_append_of_pos hrun.all]
  cases rest with
  | nil => rfl
  | cons c rest =>
      have hc : p c = false := hrun.stops c rfl
      simp [hc]

theorem exists_append (p : Char → Bool) (text : List Char) :
    ∃ run rest, text = run ++ rest ∧ IsRun p run rest := by
  refine ⟨text.takeWhile p, text.dropWhile p, List.takeWhile_append_dropWhile.symm, ?_, ?_⟩
  · exact List.all_eq_true.mp List.all_takeWhile
  · intro c hc
    have hhead := List.head?_dropWhile_not p text
    rw [hc] at hhead
    simpa using hhead

theorem of_next {c : Char} (hrun : ∀ d ∈ run, p d = true) (hc : p c = false)
    (rest : List Char) : IsRun p run (c :: rest) :=
  ⟨hrun, stops_of_cons hc rest⟩

theorem of_cons {c : Char} (hrun : IsRun p (c :: run) rest) : IsRun p run rest where
  all d hd := hrun.all d (List.mem_cons_of_mem c hd)
  stops := hrun.stops

/-- A run stays one when text follows that does not go on with it. -/
theorem append {text : List Char} (hrun : IsRun p run rest)
    (htext : rest = [] → ∀ c, text.head? = some c → p c = false) :
    IsRun p run (rest ++ text) := by
  refine ⟨hrun.all, ?_⟩
  cases rest with
  | nil => exact htext rfl
  | cons c rest => exact hrun.stops

/-- All that a run needs of the rest is its first character. -/
theorem of_head (hrun : IsRun p run rest)
    (hhead : ∀ c, rest'.head? = some c → rest.head? = some c) : IsRun p run rest' where
  all := hrun.all
  stops c hc := hrun.stops c (hhead c hc)

/-- A text splits in one way only. -/
theorem unique (hrun : IsRun p run rest) (hrun' : IsRun p run' rest')
    (htext : run ++ rest = run' ++ rest') : run = run' ∧ rest = rest' := by
  constructor
  · rw [← hrun.takeWhile_eq, htext, hrun'.takeWhile_eq]
  · rw [← hrun.dropWhile_eq, htext, hrun'.dropWhile_eq]

/-- A run within a text ends the run at its front or stands behind it. -/
theorem ends_or_behind {before : List Char} (hrun : IsRun p run rest)
    (hrun' : IsRun p run' rest') (htext : before ++ (run ++ rest) = run' ++ rest') :
    run' = before ++ run ∧ rest' = rest ∨
      ∃ others, before = run' ++ others ∧ rest' = others ++ (run ++ rest) := by
  rcases List.append_eq_append_iff.mp htext with ⟨last, hfront, hbehind⟩ | hinside
  · have hlast : IsRun p last rest' :=
      ⟨fun c hc => hrun'.all c (by simp [hfront, hc]), hrun'.stops⟩
    obtain ⟨rfl, rfl⟩ := hrun.unique hlast hbehind
    exact .inl ⟨hfront, rfl⟩
  · exact .inr hinside

end IsRun

/-! ## Text that does not go on -/

section

variable {p : Char → Bool} {text rest : List Char}

theorem takeWhile_append_stop (hstops : ∀ c, rest.head? = some c → p c = false)
    (text : List Char) : (text ++ rest).takeWhile p = text.takeWhile p := by
  obtain ⟨run, others, rfl, hrun⟩ := IsRun.exists_append p text
  have happend := hrun.append fun _ => hstops
  rw [List.append_assoc, happend.takeWhile_eq, hrun.takeWhile_eq]

theorem dropWhile_append_stop (hstops : ∀ c, rest.head? = some c → p c = false)
    (text : List Char) : (text ++ rest).dropWhile p = text.dropWhile p ++ rest := by
  obtain ⟨run, others, rfl, hrun⟩ := IsRun.exists_append p text
  have happend := hrun.append fun _ => hstops
  rw [List.append_assoc, happend.dropWhile_eq, hrun.dropWhile_eq]

end

/-! ## White space -/

/-- White space, or none. -/
def IsGap (gap : List Char) : Prop :=
  ∀ c ∈ gap, isSpace c = true

theorem isGap_nil : IsGap [] := by simp [IsGap]

theorem isGap_space : IsGap [' '] := by
  simp only [IsGap, List.forall_mem_singleton]
  decide

theorem IsGap.isRun {gap rest : List Char} (hgap : IsGap gap)
    (hrest : ∀ c, rest.head? = some c → isSpace c = false) : IsRun isSpace gap rest :=
  ⟨hgap, hrest⟩

theorem IsGap.not_mem {gap : List Char} {c : Char} (hgap : IsGap gap) (hc : isSpace c = false) :
    c ∉ gap := by
  intro hmem
  rw [hgap c hmem] at hc
  cases hc

theorem exists_gap (text : List Char) :
    ∃ gap, IsGap gap ∧ text = gap ++ text.dropWhile isSpace := by
  obtain ⟨gap, rest, rfl, hrun⟩ := IsRun.exists_append isSpace text
  exact ⟨gap, hrun.all, by rw [hrun.dropWhile_eq]⟩

/-! ## Characters that are left -/

theorem mem_dropWhile {p : Char → Bool} {text : List Char} {c : Char} (hmem : c ∈ text)
    (hc : p c = false) : c ∈ text.dropWhile p := by
  rw [← List.takeWhile_append_dropWhile (p := p) (l := text), List.mem_append] at hmem
  rcases hmem with hdropped | hkept
  · rw [List.all_eq_true.mp List.all_takeWhile c hdropped] at hc
    cases hc
  · exact hkept

theorem mem_trim {text : List Char} {c : Char} (hmem : c ∈ text) (hc : isSpace c = false) :
    c ∈ trim text := by
  have hfront := mem_dropWhile hmem hc
  rw [trim, dropEndWhile, List.mem_reverse]
  exact mem_dropWhile (List.mem_reverse.mpr hfront) hc

end StreamLinks.Text
