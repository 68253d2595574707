import Mathlib.Data.List.Chain
import Mathlib.Data.List.Forall2
import StreamLinks.Text.Pieces

/-!
# Pieces and the text they come from

The pieces of a list are what its separators leave of it: nothing is lost, nothing
is added, and neighbours within a piece were neighbours before.  A literal at the
front and the first occurrence of a character are described by how the text
decomposes.
-/

namespace StreamLinks.Text

section

variable {α : Type} {p : α → Bool}

/-! ## Pieces between separators -/

theorem splitWhere_cons_of_pos {a : α} (ha : p a = true) (as : List α) :
    splitWhere p (a :: as) = [] :: splitWhere p as := by
  simp [splitWhere, ha]

theorem splitWhere_cons_of_neg {a : α} (ha : p a = false) (as : List α) :
    ∃ piece pieces, splitWhere p as = piece :: pieces ∧
      splitWhere p (a :: as) = (a :: piece) :: pieces := by
  cases has : splitWhere p as with
  | nil => exact (splitWhere_ne_nil p as has).elim
  | cons piece pieces => exact ⟨piece, pieces, rfl, by simp [splitWhere, ha, has]⟩

theorem splitWhere_of_none {as : List α} (has : ∀ a ∈ as, p a = false) :
    splitWhere p as = [as] := by
  induction as with
  | nil => rfl
  | cons a as ih =>
      rw [List.forall_mem_cons] at has
      simp [splitWhere, has.1, ih has.2]

/-- A separator divides the pieces into those before it and those behind it. -/
theorem splitWhere_append_separator {a : α} (ha : p a = true) (front rest : List α) :
    splitWhere p (front ++ a :: rest) = splitWhere p front ++ splitWhere p rest := by
  induction front with
  | nil => exact splitWhere_cons_of_pos ha rest
  | cons b front ih =>
      cases hb : p b with
      | true => simp [splitWhere_cons_of_pos hb, ih]
      | false =>
          obtain ⟨piece, pieces, hfront, hsplit⟩ := splitWhere_cons_of_neg hb front
          rw [hsplit, List.cons_append, splitWhere, ih, hfront]
          simp [hb]

theorem splitWhere_append_cons {front : List α} {a : α} (hfront : ∀ b ∈ front, p b = false)
    (ha : p a = true) (rest : List α) :
    splitWhere p (front ++ a :: rest) = front :: splitWhere p rest := by
  rw [splitWhere_append_separator ha, splitWhere_of_none hfront, List.singleton_append]

/-- Text without separators in front belongs to the first piece. -/
theorem splitWhere_append_front {front : List α} (hfront : ∀ a ∈ front, p a = false)
    {as piece : List α} {pieces : List (List α)} (hsplit : splitWhere p as = piece :: pieces) :
    splitWhere p (front ++ as) = (front ++ piece) :: pieces := by
  induction front with
  | nil => exact hsplit
  | cons a front ih =>
      rw [List.forall_mem_cons] at hfront
      rw [List.cons_append, splitWhere, ih hfront.2]
      simp [hfront.1]

/-- Texts between separators are taken apart again. -/
theorem splitWhere_intercalate {a : α} (ha : p a = true) {texts : List (List α)}
    (hne : texts ≠ []) : splitWhere p ([a].intercalate texts) = texts.flatMap (splitWhere p) := by
  induction texts with
  | nil => contradiction
  | cons text rest ih =>
      cases rest with
      | nil => simp
      | cons next rest =>
          rw [List.intercalate_cons_cons, List.append_assoc, List.singleton_append,
            splitWhere_append_separator ha, ih (List.cons_ne_nil next rest)]
          exact List.flatMap_cons.symm

theorem splitAt_of_not_mem {separator : Char} {text : List Char} (hnone : separator ∉ text) :
    splitAt separator text = [text] := by
  apply splitWhere_of_none
  intro c hc
  rw [beq_eq_false_iff_ne]
  rintro rfl
  exact hnone hc

theorem splitAt_append_front {separator : Char} {front text piece : List Char}
    {pieces : List (List Char)} (hfront : separator ∉ front)
    (hsplit : splitAt separator text = piece :: pieces) :
    splitAt separator (front ++ text) = (front ++ piece) :: pieces := by
  apply splitWhere_append_front _ hsplit
  intro c hc
  rw [beq_eq_false_iff_ne]
  rintro rfl
  exact hfront hc

/-- The first piece ends at the first separator. -/
theorem splitAt_eq_cons (separator : Char) (text : List Char) :
    ∃ pieces, splitAt separator text = text.takeWhile (· != separator) :: pieces := by
  induction text with
  | nil => exact ⟨[], rfl⟩
  | cons c text ih =>
      unfold splitAt at ih ⊢
      obtain ⟨pieces, htext⟩ := ih
      by_cases hc : c = separator
      · subst hc
        exact ⟨_, by simp [splitWhere]; rfl⟩
      · exact ⟨pieces, by simp [splitWhere, hc, htext]⟩

theorem splitAt_append_separator (separator : Char) (front rest : List Char) :
    splitAt separator (front ++ separator :: rest) =
      splitAt separator front ++ splitAt separator rest :=
  splitWhere_append_separator (p := (· == separator)) (beq_self_eq_true separator) front rest

theorem splitAt_intercalate {separator : Char} {texts : List (List Char)} (hne : texts ≠ [])
    (hapart : ∀ text ∈ texts, separator ∉ text) :
    splitAt separator ([separator].intercalate texts) = texts := by
  have hwhole : ∀ text ∈ texts, splitWhere (· == separator) text = [text] :=
    fun text htext => splitAt_of_not_mem (hapart text htext)
  have hseparator : (separator == separator) = true := beq_self_eq_true separator
  calc splitAt separator ([separator].intercalate texts)
      = texts.flatMap (splitWhere (· == separator)) :=
        @splitWhere_intercalate _ (· == separator) separator hseparator texts hne
    _ = texts.flatMap fun text => [text] := List.flatMap_congr hwhole
    _ = texts := List.flatMap_singleton' texts

/-- There is one piece more than there are separators. -/
theorem length_splitAt (separator : Char) (text : List Char) :
    (splitAt separator text).length = text.count separator + 1 := by
  induction text with
  | nil => rfl
  | cons c text ih =>
      unfold splitAt at ih ⊢
      by_cases hc : c = separator
      · subst hc
        rw [@splitWhere_cons_of_pos _ (· == c) c (beq_self_eq_true c), List.length_cons, ih,
          List.count_cons_self]
      · obtain ⟨piece, pieces, htext, hsplit⟩ :=
          splitWhere_cons_of_neg (p := (· == separator)) (beq_eq_false_iff_ne.mpr hc) text
        rw [htext, List.length_cons] at ih
        rw [hsplit, List.length_cons, ih, List.count_cons_of_ne hc]

/-- Two kinds of separators may be cut at one after the other. -/
theorem splitWhere_or (p q : α → Bool) (as : List α) :
    splitWhere (fun a => p a || q a) as = (splitWhere q as).flatMap (splitWhere p) := by
  induction as with
  | nil => rfl
  | cons a as ih =>
      cases hq : q a with
      | true =>
          have heither : (fun a => p a || q a) a = true := by simp [hq]
          rw [@splitWhere_cons_of_pos _ _ a heither, splitWhere_cons_of_pos hq, List.flatMap_cons,
            ih]
          rfl
      | false =>
          obtain ⟨piece, pieces, has, hsplit⟩ := splitWhere_cons_of_neg hq as
          rw [has, List.flatMap_cons] at ih
          rw [hsplit, List.flatMap_cons]
          cases hp : p a with
          | true =>
              have heither : (fun a => p a || q a) a = true := by simp [hp]
              rw [@splitWhere_cons_of_pos _ _ a heither, splitWhere_cons_of_pos hp, ih]
              rfl
          | false =>
              obtain ⟨first, others, hpiece, hcons⟩ := splitWhere_cons_of_neg hp piece
              rw [hpiece, List.cons_append] at ih
              rw [hcons, splitWhere, ih]
              simp [hp, hq]

/-- With one more separator in front, each text has a separator of its own. -/
theorem cons_intercalate {texts : List (List α)} (hne : texts ≠ []) (separator : α) :
    separator :: [separator].intercalate texts = texts.flatMap (separator :: ·) := by
  induction texts with
  | nil => contradiction
  | cons text rest ih =>
      cases rest with
      | nil => simp
      | cons next rest =>
          rw [List.intercalate_cons_cons, List.flatMap_cons, ← ih (List.cons_ne_nil next rest),
            List.append_assoc, List.singleton_append, List.cons_append]

theorem mem_of_mem_intercalate {texts : List (List α)} {separator a : α}
    (hmem : a ∈ [separator].intercalate texts) : a = separator ∨ ∃ text ∈ texts, a ∈ text := by
  induction texts with
  | nil => cases hmem
  | cons text rest ih =>
      cases rest with
      | nil =>
          rw [List.intercalate_singleton] at hmem
          exact .inr ⟨text, List.mem_singleton_self text, hmem⟩
      | cons next rest =>
          rw [List.intercalate_cons_cons, List.mem_append, List.mem_append,
            List.mem_singleton] at hmem
          rcases hmem with (htext | hseparator) | hrest
          · exact .inr ⟨text, List.mem_cons_self, htext⟩
          · exact .inl hseparator
          · rcases ih hrest with hseparator | ⟨other, hother, ha⟩
            · exact .inl hseparator
            · exact .inr ⟨other, List.mem_cons_of_mem text hother, ha⟩

theorem mem_intercalate_of_mem {texts : List (List α)} {text : List α} {a : α}
    (htext : text ∈ texts) (ha : a ∈ text) (separator : List α) :
    a ∈ separator.intercalate texts := by
  induction texts with
  | nil => cases htext
  | cons first rest ih =>
      cases rest with
      | nil =>
          rw [List.mem_singleton] at htext
          rwa [List.intercalate_singleton, ← htext]
      | cons next rest =>
          rw [List.intercalate_cons_cons, List.mem_append, List.mem_append]
          rcases List.mem_cons.mp htext with rfl | hrest
          · exact .inl (.inl ha)
          · exact .inr (ih hrest)

theorem intercalate_append {texts others : List (List α)} (htexts : texts ≠ [])
    (hothers : others ≠ []) (separator : List α) :
    separator.intercalate (texts ++ others) =
      separator.intercalate texts ++ separator ++ separator.intercalate others := by
  induction texts with
  | nil => contradiction
  | cons text rest ih =>
      cases rest with
      | nil =>
          rw [List.singleton_append, List.intercalate_cons_of_ne_nil hothers,
            List.intercalate_singleton]
      | cons next rest =>
          rw [List.cons_append, List.cons_append, List.intercalate_cons_cons, ← List.cons_append,
            ih (List.cons_ne_nil next rest), List.intercalate_cons_cons]
          simp only [List.append_assoc]

theorem flatten_splitWhere (p : α → Bool) (as : List α) :
    (splitWhere p as).flatten = as.filter fun a => !p a := by
  induction as with
  | nil => rfl
  | cons a as ih =>
      cases ha : p a with
      | true => simp [splitWhere_cons_of_pos ha, ha, ih]
      | false =>
          obtain ⟨piece, pieces, has, hsplit⟩ := splitWhere_cons_of_neg ha as
          rw [has] at ih
          simp [hsplit, ha, ← ih]

/-- The pieces hold everything but the separators. -/
theorem exists_piece_iff {as : List α} {a : α} :
    (∃ piece ∈ splitWhere p as, a ∈ piece) ↔ a ∈ as ∧ p a = false := by
  rw [← List.mem_flatten, flatten_splitWhere, List.mem_filter]
  simp

theorem separator_not_mem {separator : Char} {text piece : List Char}
    (hpiece : piece ∈ splitAt separator text) : separator ∉ piece := by
  intro hmem
  have hkept := (@exists_piece_iff _ (· == separator) text separator).mp ⟨piece, hpiece, hmem⟩
  simp at hkept

/-- The first piece starts as the list does, unless that is with a separator. -/
theorem head?_of_splitWhere {as piece : List α} {pieces : List (List α)} {a : α}
    (hsplit : splitWhere p as = piece :: pieces) (ha : p a = false) :
    piece.head? = some a ↔ as.head? = some a := by
  cases as with
  | nil =>
      cases hsplit
      rfl
  | cons b as =>
      cases hb : p b with
      | true =>
          have hne : b ≠ a := by
            rintro rfl
            rw [ha] at hb
            cases hb
          rw [splitWhere_cons_of_pos hb] at hsplit
          cases hsplit
          simp [hne]
      | false =>
          obtain ⟨first, others, _, hcons⟩ := splitWhere_cons_of_neg hb as
          rw [hcons] at hsplit
          cases hsplit
          rfl

/-- What holds of neighbours within each piece, and of separators with anything,
holds of all neighbours. -/
theorem isChain_of_splitWhere {r : α → α → Prop} {as : List α}
    (hpieces : ∀ piece ∈ splitWhere p as, piece.IsChain r)
    (hseparator : ∀ a b, p a = true ∨ p b = true → r a b) : as.IsChain r := by
  induction as with
  | nil => exact .nil
  | cons a as ih =>
      cases ha : p a with
      | true =>
          rw [splitWhere_cons_of_pos ha] at hpieces
          refine List.isChain_cons.mpr ⟨fun b _ => hseparator a b (.inl ha), ih ?_⟩
          intro piece hpiece
          exact hpieces piece (List.mem_cons_of_mem _ hpiece)
      | false =>
          obtain ⟨first, pieces, has, hsplit⟩ := splitWhere_cons_of_neg ha as
          rw [hsplit] at hpieces
          have hfirst := hpieces (a :: first) List.mem_cons_self
          have has' : as.IsChain r := by
            refine ih ?_
            rw [has]
            intro piece hpiece
            rcases List.mem_cons.mp hpiece with rfl | hpiece
            · exact (List.isChain_cons.mp hfirst).2
            · exact hpieces piece (List.mem_cons_of_mem _ hpiece)
          refine List.isChain_cons.mpr ⟨?_, has'⟩
          intro b hb
          cases as with
          | nil => cases hb
          | cons c as =>
              cases hb
              cases hsep : p b with
              | true => exact hseparator a b (.inr hsep)
              | false =>
                  obtain ⟨piece, others, _, hsplit'⟩ := splitWhere_cons_of_neg hsep as
                  rw [has] at hsplit'
                  cases hsplit'
                  exact (List.isChain_cons.mp hfirst).1 b rfl

end

/-- What is related to the pieces of a text one by one is related to each of them. -/
theorem exists_of_forall₂ {α β : Type} {r : α → β → Prop} {as : List α} {bs : List β}
    (h : List.Forall₂ r as bs) {a : α} (ha : a ∈ as) : ∃ b ∈ bs, r a b := by
  induction h with
  | nil => cases ha
  | @cons first b as bs hr hothers ih =>
      rcases List.mem_cons.mp ha with rfl | ha
      · exact ⟨b, List.mem_cons_self, hr⟩
      · obtain ⟨c, hc, hrelated⟩ := ih ha
        exact ⟨c, List.mem_cons_of_mem b hc, hrelated⟩

/-- What is related to a list in two parts falls into two parts as well. -/
theorem forall₂_append_left_iff {α β : Type} {r : α → β → Prop} {as as' : List α} {bs : List β} :
    List.Forall₂ r (as ++ as') bs ↔
      ∃ first second, List.Forall₂ r as first ∧ List.Forall₂ r as' second ∧
        bs = first ++ second := by
  constructor
  · intro h
    have htake := List.forall₂_take_append bs as as' h.flip
    have hdrop := List.forall₂_drop_append bs as as' h.flip
    exact ⟨_, _, htake.flip, hdrop.flip, (List.take_append_drop as.length bs).symm⟩
  · rintro ⟨first, second, hfirst, hsecond, rfl⟩
    exact List.rel_append hfirst hsecond

/-! ## Literals and first occurrences -/

theorem after?_eq_some {start text rest : List Char} :
    after? start text = some rest ↔ text = start ++ rest := by
  induction start generalizing text with
  | nil => simp [after?]
  | cons s start ih =>
      cases text with
      | nil => simp [after?]
      | cons c text =>
          by_cases hc : s = c
          · simp [after?, hc, ih]
          · have hne : c ≠ s := fun h => hc h.symm
            simp [after?, hc, hne]

theorem cutAt?_eq_some {separator : Char} {text before after : List Char} :
    cutAt? separator text = some (before, after) ↔
      text = before ++ separator :: after ∧ separator ∉ before := by
  induction text generalizing before with
  | nil => simp [cutAt?]
  | cons c text ih =>
      by_cases hc : c = separator
      · subst hc
        cases before with
        | nil => simp [cutAt?]
        | cons b before =>
            simp only [cutAt?, if_true, Option.some.injEq, Prod.mk.injEq, List.cons_append,
              List.cons.injEq, List.mem_cons]
            constructor
            · rintro ⟨h, _⟩
              cases h
            · rintro ⟨⟨rfl, _⟩, hmem⟩
              exact (hmem (.inl rfl)).elim
      · simp only [cutAt?, if_neg hc, Option.map_eq_some_iff, Prod.exists, Prod.mk.injEq]
        constructor
        · rintro ⟨front, rest, hcut, rfl, rfl⟩
          obtain ⟨rfl, hmem⟩ := ih.mp hcut
          refine ⟨rfl, ?_⟩
          rintro (_ | ⟨_, h⟩)
          · exact hc rfl
          · exact hmem h
        · rintro ⟨htext, hmem⟩
          cases before with
          | nil =>
              obtain ⟨rfl, _⟩ := List.cons.inj htext
              exact (hc rfl).elim
          | cons b before =>
              obtain ⟨rfl, rfl⟩ := List.cons.inj htext
              simp only [List.mem_cons, not_or] at hmem
              exact ⟨before, after, ih.mpr ⟨rfl, hmem.2⟩, rfl, rfl⟩

theorem cutAt?_eq_none {separator : Char} {text : List Char} :
    cutAt? separator text = none ↔ separator ∉ text := by
  induction text with
  | nil => simp [cutAt?]
  | cons c text ih =>
      by_cases hc : c = separator
      · simp [cutAt?, hc]
      · simp [cutAt?, hc, Ne.symm hc, ih]

/-- A text is divided at the first occurrence of a character in one way only. -/
theorem eq_of_first_separator {separator : Char} {front front' back back' : List Char}
    (htext : front ++ separator :: back = front' ++ separator :: back')
    (hfront : separator ∉ front) (hfront' : separator ∉ front') :
    front = front' ∧ back = back' := by
  have hcut : cutAt? separator (front ++ separator :: back) = some (front, back) :=
    cutAt?_eq_some.mpr ⟨rfl, hfront⟩
  rw [htext, cutAt?_eq_some.mpr ⟨rfl, hfront'⟩, Option.some.injEq, Prod.mk.injEq] at hcut
  exact ⟨hcut.1.symm, hcut.2.symm⟩

/-! ## Literals that are replaced -/

theorem replaceFrom_drop (literal replacement : List Char) (skip : Nat) (text : List Char) :
    replaceFrom literal replacement skip text =
      replaceFrom literal replacement 0 (text.drop skip) := by
  induction text generalizing skip with
  | nil => simp [replaceFrom]
  | cons c rest ih =>
      cases skip with
      | zero => rfl
      | succ skip => exact ih skip

/-- Text without the first character of the literal stays as it is. -/
theorem replaceFrom_front {mark : Char} {front : List Char} (hfront : mark ∉ front)
    (literal replacement rest : List Char) :
    replaceFrom (mark :: literal) replacement 0 (front ++ rest) =
      front ++ replaceFrom (mark :: literal) replacement 0 rest := by
  induction front with
  | nil => rfl
  | cons c front ih =>
      rw [List.mem_cons, not_or] at hfront
      have hnone : after? (mark :: literal) (c :: (front ++ rest)) = none := if_neg hfront.1
      rw [List.cons_append, replaceFrom, hnone, ih hfront.2]
      rfl

theorem replaceFrom_literal (mark : Char) (literal replacement rest : List Char) :
    replaceFrom (mark :: literal) replacement 0 (mark :: literal ++ rest) =
      replacement ++ replaceFrom (mark :: literal) replacement 0 rest := by
  have hsome : after? (mark :: literal) (mark :: (literal ++ rest)) = some rest :=
    after?_eq_some.mpr rfl
  have hlength : (mark :: literal).length - 1 = literal.length := rfl
  rw [List.cons_append, replaceFrom, hsome, hlength, replaceFrom_drop, List.drop_left]
  rfl

end StreamLinks.Text
