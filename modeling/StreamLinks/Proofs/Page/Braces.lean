import Mathlib.Algebra.Group.Nat.Defs
import Mathlib.Data.List.Basic
import StreamLinks.Page
import StreamLinks.Proofs.Json.Syntax

/-!
# The closing brace of a JSON object

The search for the brace that closes an object keeps count of braces outside strings.
Every part of a JSON text leads it back to the state in which it was met, apart from
the braces of the object itself; so the search ends where the object ends, whatever
comes behind.  The counter wraps around, so an object could only seem to end within
itself if its own objects went as deep as the counter counts.
-/

namespace StreamLinks.Page

open Json (IsBlanks IsEscapeText IsContentText IsStringText IsNumberText IsValueText IsObjectText
  IsItemsText IsMemberText IsMembersText)

/-- The state after all characters of a text. -/
def BraceState.after (state : BraceState) (text : List Char) : BraceState :=
  text.foldl BraceState.next state

/-- The state outside strings. -/
def outside (depth : Int32) : BraceState :=
  ⟨depth, false, false⟩

/-- The state within a string. -/
def inside (depth : Int32) : BraceState :=
  ⟨depth, true, false⟩

/-- The search comes over the text from one state to the other, and does not end. -/
structure Leads (state state' : BraceState) (text : List Char) : Prop where
  after : state.after text = state'
  goes : upToClosing? state text = none

/-- The search comes back to the state in which it meets the text, and ends within it only if
the depth is zero at one of so many levels. -/
structure Passes (levels : Nat) (text : List Char) : Prop where
  returns : ∀ depth, (outside depth).after text = outside depth
  goes : ∀ depth : Int32, (∀ level < levels, depth + Int32.ofNat level ≠ 0) →
    upToClosing? (outside depth) text = none

variable {state state' state'' : BraceState} {text text' taken : List Char} {c : Char}
  {levels : Nat}

/-! ## Texts in parts -/

theorem after_append (state : BraceState) (text text' : List Char) :
    state.after (text ++ text') = (state.after text).after text' :=
  List.foldl_append

/-- What the search takes of a text it takes whatever comes behind. -/
theorem upToClosing?_append (state : BraceState) (text text' : List Char) :
    upToClosing? state (text ++ text') = (upToClosing? state text).or
      ((upToClosing? (state.after text) text').map (text ++ ·)) := by
  induction text generalizing state with
  | nil => simp [upToClosing?, BraceState.after]
  | cons c text ih =>
      have hafter : state.after (c :: text) = (state.next c).after text := rfl
      rw [List.cons_append, upToClosing?, upToClosing?]
      split
      next => rfl
      next =>
        rw [ih, hafter, Option.map_or, Option.map_map]
        rfl

theorem leads_nil (state : BraceState) : Leads state state [] :=
  ⟨rfl, rfl⟩

theorem Leads.append (hfirst : Leads state state' text) (hsecond : Leads state' state'' text') :
    Leads state state'' (text ++ text') where
  after := by rw [after_append, hfirst.after, hsecond.after]
  goes := by
    rw [upToClosing?_append, hfirst.goes, hfirst.after, hsecond.goes]
    rfl

theorem leads_next (hopen : state.isClosedBy c = false) : Leads state (state.next c) [c] where
  after := rfl
  goes := by
    rw [upToClosing?, hopen]
    rfl

theorem Leads.cons (hopen : state.isClosedBy c = false)
    (hnext : Leads (state.next c) state' text) : Leads state state' (c :: text) :=
  (leads_next hopen).append hnext

/-- Characters that do not change the state are passed over. -/
theorem leads_of_steady
    (htext : ∀ c ∈ text, state.isClosedBy c = false ∧ state.next c = state) :
    Leads state state text := by
  induction text with
  | nil => exact leads_nil state
  | cons c text ih =>
      rw [List.forall_mem_cons] at htext
      obtain ⟨⟨hopen, hsteady⟩, hrest⟩ := htext
      apply Leads.cons hopen
      rw [hsteady]
      exact ih hrest

theorem passes_of_leads (hleads : ∀ depth, Leads (outside depth) (outside depth) text) :
    Passes levels text :=
  ⟨fun depth => (hleads depth).after, fun depth _ => (hleads depth).goes⟩

theorem Passes.append (hfirst : Passes levels text) (hsecond : Passes levels text') :
    Passes levels (text ++ text') where
  returns depth := by rw [after_append, hfirst.returns, hsecond.returns]
  goes depth hdepth := by
    rw [upToClosing?_append, hfirst.goes depth hdepth, hfirst.returns, hsecond.goes depth hdepth]
    rfl

/-! ## Characters outside strings -/

/-- A character that is no quote and no brace. -/
def isPlain (c : Char) : Bool :=
  c != '"' && c != '{' && c != '}'

theorem passes_of_plain (htext : ∀ c ∈ text, isPlain c = true) : Passes levels text := by
  refine passes_of_leads fun depth => leads_of_steady ?_
  intro c hmem
  have hc := htext c hmem
  simp only [isPlain, Bool.and_eq_true, bne_iff_ne, ne_eq] at hc
  simp [BraceState.isClosedBy, BraceState.next, outside, hc]

theorem passes_singleton (hc : isPlain c = true) : Passes levels [c] :=
  passes_of_plain (List.forall_mem_singleton.mpr hc)

theorem passes_of_blanks (hblanks : IsBlanks text) : Passes levels text := by
  apply passes_of_plain
  intro c hmem
  have hc := hblanks c hmem
  simp only [Json.isBlank, Bool.or_eq_true, beq_iff_eq] at hc
  rcases hc with ((rfl | rfl) | rfl) | rfl <;> decide

theorem passes_of_number (hnumber : IsNumberText text) : Passes levels text := by
  obtain ⟨numeral, hnumber⟩ := hnumber
  apply passes_of_plain
  intro c hmem
  simp only [isPlain, Bool.and_eq_true, bne_iff_ne, ne_eq]
  refine ⟨⟨?_, ?_⟩, ?_⟩
  all_goals
    rintro rfl
    exact absurd (hnumber.isNumeric _ hmem) (by decide)

theorem passes_of_word (hword : text ∈ Json.words.map Prod.fst) : Passes levels text := by
  have hplain : ∀ word ∈ Json.words.map Prod.fst, ∀ c ∈ word, isPlain c = true := by
    simp [Json.words, isPlain]
  exact passes_of_plain (hplain _ hword)

/-! ## Strings -/

theorem not_isClosedBy_inside (depth : Int32) (c : Char) :
    (inside depth).isClosedBy c = false := by
  simp [BraceState.isClosedBy, inside]

theorem leads_inside {depth : Int32} (htext : ∀ c ∈ text, c ≠ '"' ∧ c ≠ '\\') :
    Leads (inside depth) (inside depth) text := by
  refine leads_of_steady fun c hmem => ⟨not_isClosedBy_inside depth c, ?_⟩
  obtain ⟨hquote, hbackslash⟩ := htext c hmem
  simp [BraceState.next, inside, hquote, hbackslash]

theorem leads_escape {escape : List Char} (hescape : IsEscapeText escape) (depth : Int32) :
    Leads (inside depth) (inside depth) ('\\' :: escape) := by
  -- The backslash protects the character behind it and nothing else.
  have hprotects : ∀ {c : Char} {rest : List Char}, Leads (inside depth) (inside depth) rest →
      Leads (inside depth) (inside depth) ('\\' :: c :: rest) := by
    intro c rest hrest
    refine .cons (not_isClosedBy_inside depth _) (.cons ?_ hrest)
    simp [BraceState.isClosedBy, BraceState.next, inside]
  cases hescape with
  | short hmark => exact hprotects (leads_nil _)
  | unit hlength hdigits =>
      refine hprotects (leads_inside fun c hmem => ⟨?_, ?_⟩)
      all_goals
        rintro rfl
        exact absurd (hdigits _ hmem) (by decide)

theorem leads_content (hcontent : IsContentText text) (depth : Int32) :
    Leads (inside depth) (inside depth) text := by
  induction hcontent with
  | nil => exact leads_nil _
  | plain hquote hbackslash hcontrol hrest ih =>
      exact (leads_inside (List.forall_mem_singleton.mpr ⟨hquote, hbackslash⟩)).append ih
  | escape hescape hrest ih => exact (leads_escape hescape depth).append ih

theorem passes_of_string (hstring : IsStringText text) : Passes levels text := by
  cases hstring with
  | quoted hcontent =>
      refine passes_of_leads fun depth => ?_
      have hopening : Leads (outside depth) (inside depth) ['"'] :=
        @leads_next (outside depth) '"' rfl
      have hclosing : Leads (inside depth) (outside depth) ['"'] :=
        @leads_next (inside depth) '"' (not_isClosedBy_inside depth _)
      exact hopening.append ((leads_content hcontent depth).append hclosing)

/-! ## Values -/

theorem leads_opening (depth : Int32) : Leads (outside depth) (outside (depth + 1)) ['{'] :=
  @leads_next (outside depth) '{' rfl

theorem next_closing (depth : Int32) : (outside (depth + 1)).next '}' = outside depth := by
  simp [BraceState.next, outside, Int32.add_sub_cancel]

theorem upToClosing?_closing (depth : Int32) (rest : List Char) :
    upToClosing? (outside (depth + 1)) ('}' :: rest) =
      if depth = 0 then some ['}'] else (upToClosing? (outside depth) rest).map ('}' :: ·) := by
  have hcloses : (outside (depth + 1)).isClosedBy '}' = decide (depth = 0) := by
    rw [BraceState.isClosedBy, next_closing]
    rfl
  rw [upToClosing?, hcloses, next_closing]
  simp

/-- The braces of an object add one level, and the search could end at its closing one. -/
theorem passes_of_braces (hinner : Passes levels text) :
    Passes (levels + 1) ('{' :: (text ++ ['}'])) where
  returns depth := by
    have hwhole : '{' :: (text ++ ['}']) = ['{'] ++ (text ++ ['}']) := rfl
    rw [hwhole, after_append, (leads_opening depth).after, after_append, hinner.returns]
    exact next_closing depth
  goes depth hdepth := by
    have hhere : depth ≠ 0 := by simpa using hdepth 0 (Nat.succ_pos levels)
    have hwithin : ∀ level < levels, depth + 1 + Int32.ofNat level ≠ 0 := by
      intro level hlevel
      have hnext := hdepth (level + 1) (Nat.succ_lt_succ hlevel)
      rwa [Nat.add_comm, Int32.ofNat_add, ← Int32.add_assoc] at hnext
    have hwhole : '{' :: (text ++ ['}']) = ['{'] ++ (text ++ ['}']) := rfl
    rw [hwhole, upToClosing?_append, (leads_opening depth).goes, (leads_opening depth).after,
      upToClosing?_append, hinner.goes _ hwithin, hinner.returns, upToClosing?_closing,
      if_neg hhere]
    rfl

theorem passes_of_brackets (hinner : Passes levels text) :
    Passes levels ('[' :: (text ++ [']'])) :=
  (passes_singleton (by decide)).append (hinner.append (passes_singleton (by decide)))

mutual

theorem passes_of_value : ∀ {levels : Nat} {text : List Char},
    IsValueText levels text → Passes levels text
  | _, _, .word hword => passes_of_word hword
  | _, _, .number hnumber => passes_of_number hnumber
  | _, _, .string hstring => passes_of_string hstring
  | _, _, .emptyArray hblanks => passes_of_brackets (passes_of_blanks hblanks)
  | _, _, .array hitems => passes_of_brackets (passes_of_items hitems)
  | _, _, .object hobject => passes_of_object hobject

theorem passes_of_object : ∀ {levels : Nat} {text : List Char},
    IsObjectText levels text → Passes levels text
  | _, _, .empty hblanks => passes_of_braces (passes_of_blanks hblanks)
  | _, _, .members hmembers => passes_of_braces (passes_of_members hmembers)

theorem passes_of_items : ∀ {levels : Nat} {text : List Char},
    IsItemsText levels text → Passes levels text
  | _, _, .last hbefore hvalue hafter => by
      have hitem := passes_of_value hvalue
      exact (passes_of_blanks hbefore).append (hitem.append (passes_of_blanks hafter))
  | _, _, .more hbefore hvalue hafter hitems => by
      have hitem := passes_of_value hvalue
      have hcomma := (passes_singleton (by decide : isPlain ',' = true)).append
        (passes_of_items hitems)
      exact (passes_of_blanks hbefore).append
        (hitem.append ((passes_of_blanks hafter).append hcomma))

theorem passes_of_member : ∀ {levels : Nat} {text : List Char},
    IsMemberText levels text → Passes levels text
  | _, _, .intro hbefore hkey hbehind hahead hvalue => by
      have hitem := (passes_of_blanks hahead).append (passes_of_value hvalue)
      have hcolon := (passes_singleton (by decide : isPlain ':' = true)).append hitem
      exact (passes_of_blanks hbefore).append
        ((passes_of_string hkey).append ((passes_of_blanks hbehind).append hcolon))

theorem passes_of_members : ∀ {levels : Nat} {text : List Char},
    IsMembersText levels text → Passes levels text
  | _, _, .last hmember hafter => (passes_of_member hmember).append (passes_of_blanks hafter)
  | _, _, .more hmember hafter hmembers => by
      have hcomma := (passes_singleton (by decide : isPlain ',' = true)).append
        (passes_of_members hmembers)
      exact (passes_of_member hmember).append ((passes_of_blanks hafter).append hcomma)

end

/-! ## The brace that closes an object -/

theorem exists_inner_of_object (hobject : IsObjectText levels text) :
    ∃ level inner, levels = level + 1 ∧ text = '{' :: (inner ++ ['}']) ∧ Passes level inner := by
  cases hobject with
  | empty hblanks => exact ⟨_, _, rfl, rfl, passes_of_blanks hblanks⟩
  | members hmembers => exact ⟨_, _, rfl, rfl, passes_of_members hmembers⟩

theorem matchingBrace?_braces (hinner : Passes levels text) (rest : List Char) :
    matchingBrace? ('{' :: (text ++ ['}']) ++ rest) =
      some ('{' :: ((upToClosing? (outside 1) text).getD (text ++ ['}']))) := by
  have hstart : matchingBrace? ('{' :: (text ++ ['}']) ++ rest) =
      upToClosing? (outside 0) (['{'] ++ (text ++ '}' :: rest)) := by
    simp [matchingBrace?, outside]
  rw [hstart, upToClosing?_append, (leads_opening 0).goes, (leads_opening 0).after, Int32.zero_add,
    upToClosing?_append, hinner.returns]
  have hclosing := upToClosing?_closing 0 rest
  rw [Int32.zero_add, if_pos rfl] at hclosing
  rw [hclosing]
  cases upToClosing? (outside 1) text <;> rfl

theorem ofNat_succ_ne_zero {n : Nat} (hn : n + 1 < 2 ^ 31) : 1 + Int32.ofNat n ≠ 0 := by
  have hsum : 1 + Int32.ofNat n = Int32.ofNat (n + 1) := by
    rw [Int32.ofNat_add, Int32.add_comm]
    rfl
  rw [hsum]
  intro hzero
  have hvalue := Int32.toInt_ofNat_of_lt hn
  rw [hzero] at hvalue
  simp at hvalue
  omega

/-- The search finds the end of an object, whatever comes behind it. -/
theorem matchingBrace?_object (hlevels : levels < 2 ^ 31) (hobject : IsObjectText levels text)
    (rest : List Char) : matchingBrace? (text ++ rest) = some text := by
  obtain ⟨level, inner, rfl, rfl, hinner⟩ := exists_inner_of_object hobject
  have hcounts : ∀ k < level, 1 + Int32.ofNat k ≠ 0 := fun k hk => ofNat_succ_ne_zero (by omega)
  rw [matchingBrace?_braces hinner, hinner.goes 1 hcounts]
  rfl

/-- Whatever comes behind an object, however deep, the search takes the same of it. -/
theorem matchingBrace?_object_congr (hobject : IsObjectText levels text) (rest rest' : List Char) :
    matchingBrace? (text ++ rest) = matchingBrace? (text ++ rest') := by
  obtain ⟨level, inner, -, rfl, hinner⟩ := exists_inner_of_object hobject
  rw [matchingBrace?_braces hinner, matchingBrace?_braces hinner]

theorem upToClosing?_front (htaken : upToClosing? state text = some taken) :
    taken <+: text ∧ taken.head? = text.head? ∧ upToClosing? state taken = some taken := by
  induction text generalizing state taken with
  | nil => cases htaken
  | cons c text ih =>
      unfold upToClosing? at htaken
      split at htaken
      next hcloses =>
        cases htaken
        exact ⟨⟨text, rfl⟩, rfl, by rw [upToClosing?, if_pos hcloses]⟩
      next hopen =>
        obtain ⟨others, hothers, rfl⟩ := Option.map_eq_some_iff.mp htaken
        obtain ⟨hfront, -, hagain⟩ := ih hothers
        refine ⟨List.cons_prefix_cons.mpr ⟨rfl, hfront⟩, rfl, ?_⟩
        rw [upToClosing?, if_neg hopen, hagain]
        rfl

theorem matchingBrace?_front (htaken : matchingBrace? text = some taken) :
    taken <+: text ∧ taken.head? = some '{' ∧
      ∀ rest, matchingBrace? (taken ++ rest) = some taken := by
  unfold matchingBrace? at htaken
  split at htaken
  next hbrace =>
    obtain ⟨hfront, hhead, hagain⟩ := upToClosing?_front htaken
    rw [hbrace] at hhead
    refine ⟨hfront, hhead, fun rest => ?_⟩
    have hstarts : (taken ++ rest).head? = some '{' := by
      rw [List.head?_append, hhead]
      rfl
    rw [matchingBrace?, if_pos hstarts, upToClosing?_append, hagain]
    rfl
  next => cases htaken

/-- The search finds the end of every JSON object, whatever comes behind it.  What it finds at
the front of a text it finds whatever comes behind, and no other JSON object stands at the front
of that text. -/
theorem closing_brace_ends_object :
    (∀ (levels : Nat) (object rest : List Char), levels < 2 ^ 31 → IsObjectText levels object →
      matchingBrace? (object ++ rest) = some object) ∧
    ∀ text taken : List Char, matchingBrace? text = some taken →
      taken <+: text ∧ (∀ rest, matchingBrace? (taken ++ rest) = some taken) ∧
        ∀ (levels : Nat) (object : List Char), levels < 2 ^ 31 → IsObjectText levels object →
          object <+: text → object = taken := by
  refine ⟨fun _ _ rest hlevels hobject => matchingBrace?_object hlevels hobject rest, ?_⟩
  intro text taken htaken
  obtain ⟨hfront, -, hagain⟩ := matchingBrace?_front htaken
  refine ⟨hfront, hagain, ?_⟩
  rintro levels object hlevels hobject ⟨rest, rfl⟩
  have hclosed := matchingBrace?_object hlevels hobject rest
  exact Option.some.inj (hclosed.symm.trans htaken)

/-- An object with an escaped backslash in front of a closing quote, and an object within an
array. -/
def escapedObject : List Char :=
  "\x7b\"\\\\\": [\x7b\x7d]\x7d".toList

theorem isObjectText_escapedObject : IsObjectText 2 escapedObject := by
  have hkey : IsStringText ['"', '\\', '\\', '"'] :=
    .quoted (.escape (.short (by decide)) .nil)
  have hnone : IsBlanks [] := by simp [IsBlanks]
  have hspace : IsBlanks [' '] := List.forall_mem_singleton.mpr rfl
  have hitems : IsItemsText 1 ['{', '}'] := .last hnone (.object (.empty hnone)) hnone
  have hmember : IsMemberText 1 "\"\\\\\": [\x7b\x7d]".toList :=
    .intro hnone hkey hnone hspace (.array hitems)
  exact .members (.last hmember hnone)

/-- The quote and the brace behind the object are not looked at. -/
theorem closing_brace_ends_escaped_object :
    let rest := "\"\x7d".toList
    IsObjectText 2 escapedObject ∧ matchingBrace? (escapedObject ++ rest) = some escapedObject ∧
      escapedObject <+: escapedObject ++ rest ∧
      (∀ more, matchingBrace? (escapedObject ++ more) = some escapedObject) ∧
      ∀ (levels : Nat) (object : List Char), levels < 2 ^ 31 → IsObjectText levels object →
        object <+: escapedObject ++ rest → object = escapedObject := by
  intro rest
  obtain ⟨hobjects, hfound⟩ := closing_brace_ends_object
  have hclosed := hobjects 2 escapedObject rest (by decide) isObjectText_escapedObject
  exact ⟨isObjectText_escapedObject, hclosed, hfound _ _ hclosed⟩

end StreamLinks.Page
