import Mathlib.Data.List.DropRight
import StreamLinks.Proofs.Text.Runs

/-!
# Trimmed texts

Trimming takes white space from both ends and nothing else: it leaves a text alone exactly if
no end of it is white space, and white space around a text makes no difference.
-/

namespace StreamLinks.Text

variable {p : Char → Bool} {text gap : List Char} {c : Char}

theorem dropEndWhile_eq_rdropWhile (p : Char → Bool) (text : List Char) :
    dropEndWhile p text = text.rdropWhile p := rfl

theorem dropEndWhile_concat (hc : p c = false) (text : List Char) :
    dropEndWhile p (text ++ [c]) = text ++ [c] :=
  List.rdropWhile_concat_neg p text c (by simp [hc])

theorem dropEndWhile_append (hgap : ∀ d ∈ gap, p d = true) (text : List Char) :
    dropEndWhile p (text ++ gap) = dropEndWhile p text := by
  rw [dropEndWhile, List.reverse_append, List.dropWhile_append_of_pos (by simpa using hgap),
    dropEndWhile]

theorem dropEndWhile_append_of_neg {front : List Char} (hfront : ∀ d ∈ front, p d = false)
    (text : List Char) : dropEndWhile p (front ++ text) = front ++ dropEndWhile p text := by
  induction front with
  | nil => rfl
  | cons c front ih =>
      rw [List.forall_mem_cons] at hfront
      rw [List.cons_append, dropEndWhile_cons hfront.1, ih hfront.2, List.cons_append]

theorem dropEndWhile_append_cons (hc : p c = false) (front text : List Char) :
    dropEndWhile p (front ++ c :: text) = front ++ c :: dropEndWhile p text := by
  have hstays : (c :: front.reverse).dropWhile p = c :: front.reverse :=
    List.dropWhile_cons_of_neg (by simp [hc])
  simp only [dropEndWhile, List.reverse_append, List.reverse_cons, List.append_assoc,
    List.singleton_append, List.dropWhile_append]
  split
  next hempty => simp [hstays, List.isEmpty_iff.mp hempty]
  next => simp

theorem dropEndWhile_sublist (p : Char → Bool) (text : List Char) :
    (dropEndWhile p text).Sublist text :=
  (List.rdropWhile_prefix p text).sublist

theorem trim_sublist (text : List Char) : (trim text).Sublist text :=
  (dropEndWhile_sublist isSpace _).trans (List.dropWhile_sublist _)

theorem trim_gap_append (hgap : IsGap gap) (text : List Char) :
    trim (gap ++ text) = trim text := by
  rw [trim, List.dropWhile_append_of_pos hgap, trim]

theorem trim_append_gap (hgap : IsGap gap) (text : List Char) :
    trim (text ++ gap) = trim text := by
  rw [trim, List.dropWhile_append, trim]
  split
  next hempty =>
    rw [List.isEmpty_iff.mp hempty, List.dropWhile_eq_nil_iff.mpr hgap]
  next => exact dropEndWhile_append hgap _

theorem trim_of_gap (hgap : IsGap gap) : trim gap = [] := by
  have htrim := trim_gap_append hgap []
  rwa [List.append_nil] at htrim

/-- Behind something that stays, only the end is trimmed. -/
theorem trim_append {front : List Char} (hfront : ∀ c ∈ front, isSpace c = false)
    (hne : front ≠ []) (text : List Char) :
    trim (front ++ text) = front ++ dropEndWhile isSpace text := by
  have hstart : (front ++ text).dropWhile isSpace = front ++ text := by
    cases front with
    | nil => exact absurd rfl hne
    | cons c front =>
        have hc : isSpace c = false := hfront c List.mem_cons_self
        rw [List.cons_append, List.dropWhile_cons_of_neg (by simp [hc])]
  rw [trim, hstart, dropEndWhile_append_of_neg hfront]

/-- A text is trimmed if neither its first nor its last character is white space. -/
theorem trim_eq_self_iff :
    trim text = text ↔ (∀ c, text.head? = some c → isSpace c = false) ∧
      ∀ c, text.getLast? = some c → isSpace c = false := by
  have hfirst : text.dropWhile isSpace = text ↔ ∀ c, text.head? = some c → isSpace c = false := by
    rw [List.dropWhile_eq_self_iff]
    cases text <;> simp
  have hlast : dropEndWhile isSpace text = text ↔
      ∀ c, text.getLast? = some c → isSpace c = false := by
    rw [dropEndWhile_eq_rdropWhile, List.rdropWhile_eq_self_iff]
    cases text using List.reverseRecOn <;> simp
  rw [← hfirst, ← hlast]
  constructor
  · intro htrim
    have hback := dropEndWhile_sublist isSpace (text.dropWhile isSpace)
    rw [← trim, htrim] at hback
    have hkept := (List.dropWhile_sublist isSpace).antisymm hback
    exact ⟨hkept, by rwa [trim, hkept] at htrim⟩
  · rintro ⟨hfront, hback⟩
    rw [trim, hfront, hback]

theorem trim_append_trimmed {front : List Char} (hfront : ∀ c ∈ front, isSpace c = false)
    (htext : trim text = text) (hne : text ≠ []) : trim (front ++ text) = front ++ text := by
  obtain ⟨hfirst, hlast⟩ := trim_eq_self_iff.mp htext
  refine trim_eq_self_iff.mpr ⟨fun c hc => ?_, fun c hc => ?_⟩
  · cases front with
    | nil => exact hfirst c hc
    | cons d front => exact hfront c (List.mem_of_head? hc)
  · rw [List.getLast?_append_of_ne_nil _ hne] at hc
    exact hlast c hc

theorem trim_of_ends {first last : Char} (hfirst : isSpace first = false)
    (hlast : isSpace last = false) (middle : List Char) :
    trim (first :: (middle ++ [last])) = first :: (middle ++ [last]) := by
  refine trim_eq_self_iff.mpr ⟨?_, ?_⟩
  · intro c hc
    cases hc
    exact hfirst
  · intro c hc
    rw [← List.cons_append, List.getLast?_concat, Option.some.injEq] at hc
    rwa [← hc]

theorem trimString_eq_empty_iff {text : String} : trimString text = "" ↔ isBlank text = true := by
  rw [isBlank, List.all_eq_true]
  constructor
  · intro hempty c hc
    cases hspace : isSpace c with
    | true => rfl
    | false =>
        have hmem := mem_trim hc hspace
        rw [← String.toList_ofList (l := trim text.toList), ← trimString, hempty] at hmem
        cases hmem
  · intro hgap
    rw [trimString, trim_of_gap hgap]

end StreamLinks.Text
