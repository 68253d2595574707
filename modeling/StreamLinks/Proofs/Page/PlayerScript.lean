import StreamLinks.Proofs.Json.Acceptance
import StreamLinks.Proofs.Page.Scripts
import StreamLinks.Proofs.Resolution.Signatures
import StreamLinks.Proofs.Text.Letters

/-!
# The player script of a page

Where a JSON object stands behind the colon of `"assets"`, its member `js` is what is taken
only if nothing in front of it looks like that member.  What does are keys at any depth that
are `js` or end in `"js`; and when there is none in the object, the search goes on behind it.
-/

namespace StreamLinks.Page

open Json (HasMember IsBlanks IsContent IsEscape IsItems IsMember IsMembers IsNumber IsObject IsString
  IsValue)

variable {text rest : List Char} {c : Char} {depth : Nat}

/-- Written out, the key ends with the two letters between quotes. -/
def LooksLikeScript (key : String) : Prop :=
  key = "js" ∨ "\"js".toList <:+ key.toList

/-- No key of the value or inside it that looks like that of a script has a text as its value,
unless that is empty. -/
def NamesNoScript (value : Json) : Prop :=
  ∀ key script, HasMember (key, .string script) value → LooksLikeScript key → script = ""

/-- What may stand behind a value that is within an array or an object. -/
inductive EndsValue : List Char → Prop
  | intro {blanks rest : List Char} {mark : Char} (hblanks : IsBlanks blanks)
      (hmark : mark ∈ [',', ']', '}']) : EndsValue (blanks ++ mark :: rest)

/-! ## Blanks -/

theorem isSpace_of_isBlank (hblank : Json.isBlank c = true) : Text.isSpace c = true := by
  simp only [Json.isBlank, Bool.or_eq_true, beq_iff_eq] at hblank
  rcases hblank with ((rfl | rfl) | rfl) | rfl <;> decide

theorem isGap_of_isBlanks (hblanks : IsBlanks text) : Text.IsGap text :=
  fun c hc => isSpace_of_isBlank (hblanks c hc)

theorem not_mem_of_isBlanks (hblanks : IsBlanks text) (hc : Json.isBlank c = false) :
    c ∉ text := by
  intro hmem
  rw [hblanks c hmem] at hc
  cases hc

theorem skipped_of_blanks (hblanks : IsBlanks text) : Skipped rest text :=
  skipped_of_no_quote (not_mem_of_isBlanks hblanks (by decide))

theorem head?_of_blanks {mark : Char} (hblanks : IsBlanks text) (hmark : mark ≠ 'j') :
    (text ++ mark :: rest).head? ≠ some 'j' := by
  cases text with
  | nil => simpa using hmark
  | cons c text =>
      have hc : c ≠ 'j' := by
        rintro rfl
        exact absurd (hblanks 'j' List.mem_cons_self) (by decide)
      simpa using hc

theorem EndsValue.append {blanks : List Char} (hends : EndsValue rest) (hblanks : IsBlanks blanks) :
    EndsValue (blanks ++ rest) := by
  obtain ⟨hothers, hmark⟩ := hends
  rw [← List.append_assoc]
  refine .intro ?_ hmark
  intro c hc
  exact (List.mem_append.mp hc).elim (hblanks c) (hothers c)

theorem EndsValue.head? (hends : EndsValue rest) : rest.head? ≠ some 'j' := by
  obtain ⟨hblanks, hmark⟩ := hends
  apply head?_of_blanks hblanks
  rintro rfl
  simp at hmark

theorem EndsValue.not_assigns {literal : List Char} (hends : EndsValue rest) :
    ¬ Assigns rest literal := by
  obtain ⟨hblanks, hmark⟩ := hends
  rename_i blanks rest mark
  have hskipped : skipSpace (blanks ++ mark :: rest) = mark :: rest := by
    apply skipSpace_append (isGap_of_isBlanks hblanks)
    intro c hc
    cases hc
    simp only [List.mem_cons, List.not_mem_nil, or_false] at hmark
    rcases hmark with rfl | rfl | rfl <;> decide
  intro hassigns
  have hcolon := hassigns.head?
  rw [hskipped, List.head?_cons, Option.some.injEq] at hcolon
  rw [hcolon] at hmark
  simp at hmark

/-! ## Strings -/

theorem quote_of_escape {escape : List Char} (hescape : IsEscape escape c) :
    '"' ∉ escape ∨ escape = ['"'] ∧ c = '"' := by
  have hdigit : Text.hexValue? '"' = none := by decide
  cases hescape with
  | short hmark =>
      simp only [Json.shortEscapes, List.mem_cons, Prod.mk.injEq, List.not_mem_nil, or_false]
        at hmark
      rcases hmark with h | h | h | h | h | h | h | h
      · exact .inr ⟨by rw [h.1], h.2⟩
      all_goals
        left
        rw [h.1]
        decide
  | unit hdigits hhigh hlow =>
      have hquote := Json.not_mem_of_hexNumberFrom? hdigit hdigits.2
      left
      simpa using hquote
  | pair hdigits hdigits' hhigh hlow =>
      have hquote := Json.not_mem_of_hexNumberFrom? hdigit hdigits.2
      have hquote' := Json.not_mem_of_hexNumberFrom? hdigit hdigits'.2
      left
      simp [hquote, hquote']

/-- Within a string the two letters have a quote behind them only at its end. -/
theorem content_of_letters {content behind : List Char} (hcontent : IsContent text content)
    (htext : text ++ '"' :: rest = 'j' :: 's' :: '"' :: behind) :
    content = ['j', 's'] ∧ behind = rest := by
  cases hcontent with
  | nil => cases htext
  | escape hescape hrest => cases htext
  | plain hquote hbackslash hcontrol hrest =>
      cases hrest with
      | nil => cases htext
      | escape hescape hrest => cases htext
      | plain hquote hbackslash hcontrol hrest =>
          cases hrest with
          | nil =>
              cases htext
              exact ⟨rfl, rfl⟩
          | escape hescape hrest => cases htext
          | plain hquote hbackslash hcontrol hrest =>
              cases htext
              exact (hquote rfl).elim

theorem scriptLiteral?_of_content {content : List Char} (hcontent : IsContent text content)
    (hvalue : ∀ literal, Assigns rest literal → content ≠ ['j', 's']) :
    scriptLiteral? ('"' :: (text ++ ['"'] ++ rest)) = none := by
  rw [Option.eq_none_iff_forall_ne_some]
  intro literal hscript
  obtain ⟨behind, htext, hassigns⟩ := exists_assigned hscript
  rw [List.append_assoc, List.singleton_append] at htext
  obtain ⟨hletters, rfl⟩ := content_of_letters hcontent htext
  exact hvalue literal hassigns hletters

theorem skipped_of_content {content : List Char} (hcontent : IsContent text content)
    (hletter : rest.head? ≠ some 'j')
    (hvalue : ∀ literal, Assigns rest literal → ¬ ['"', 'j', 's'] <:+ content) :
    Skipped rest (text ++ ['"']) := by
  induction hcontent with
  | nil =>
      refine ⟨?_, trivial⟩
      rw [Option.eq_none_iff_forall_ne_some]
      intro literal hscript
      obtain ⟨behind, htext, -⟩ := exists_assigned hscript
      rw [List.nil_append] at htext
      rw [htext] at hletter
      exact hletter rfl
  | plain hquote hbackslash hcontrol hrest ih =>
      rw [List.cons_append, skipped_cons_of_ne_quote hquote]
      exact ih fun literal hassigns hsuffix =>
        hvalue literal hassigns (hsuffix.trans (List.suffix_cons _ _))
  | @escape escape text content c hescape hrest ih =>
      have hothers := ih fun literal hassigns hsuffix =>
        hvalue literal hassigns (hsuffix.trans (List.suffix_cons _ _))
      rw [List.cons_append, skipped_cons_of_ne_quote (by decide), List.append_assoc,
        skipped_append]
      refine ⟨?_, hothers⟩
      rcases quote_of_escape hescape with hquote | ⟨rfl, rfl⟩
      · exact skipped_of_no_quote hquote
      · -- An escaped quote is a place, but a string that goes on as a key would end there.
        refine ⟨scriptLiteral?_of_content hrest ?_, trivial⟩
        rintro literal hassigns rfl
        exact hvalue literal hassigns List.suffix_rfl

theorem skipped_of_string {content : String} (hstring : IsString text content)
    (hletter : rest.head? ≠ some 'j')
    (hvalue : ∀ literal, Assigns rest literal → ¬ LooksLikeScript content) :
    Skipped rest text := by
  have hname : "\"js".toList = ['"', 'j', 's'] := by decide +kernel
  cases hstring with
  | @quoted text content hcontent =>
      have hothers : Skipped rest (text ++ ['"']) := by
        apply skipped_of_content hcontent hletter
        intro literal hassigns hsuffix
        refine hvalue literal hassigns (.inr ?_)
        rwa [hname, String.toList_ofList]
      refine ⟨scriptLiteral?_of_content hcontent ?_, hothers⟩
      rintro literal hassigns rfl
      exact hvalue literal hassigns (.inl rfl)

/-! ## Values -/

theorem skipped_of_word {value : Json} (hword : (text, value) ∈ Json.words) :
    Skipped rest text := by
  have hquote : ∀ word ∈ Json.words, '"' ∉ word.1 := by
    simp only [Json.words, List.forall_mem_cons]
    decide +kernel
  exact skipped_of_no_quote (hquote _ hword)

theorem skipped_of_number {numeral : Json.Numeral} (hnumber : IsNumber text numeral) :
    Skipped rest text := by
  apply skipped_of_no_quote
  intro hquote
  exact absurd (hnumber.isNumeric _ hquote) (by decide)

/-- Between brackets or braces there is nothing but what the array or object holds. -/
theorem skipped_of_enclosed {opening closing : Char} (hopening : opening ≠ '"')
    (hclosing : closing ≠ '"') (hinner : Skipped (closing :: rest) text) :
    Skipped rest (opening :: (text ++ [closing])) := by
  rw [skipped_cons_of_ne_quote hopening, skipped_append]
  exact ⟨hinner, skipped_of_no_quote (by simpa using Ne.symm hclosing)⟩

theorem endsValue_comma {after : List Char} (hafter : IsBlanks after) (rest : List Char) :
    EndsValue (after ++ ',' :: rest) :=
  .intro hafter (by decide)

theorem endsValue_mark {mark : Char} (hmark : mark ∈ [',', ']', '}']) (rest : List Char) :
    EndsValue (mark :: rest) := by
  have hnone : IsBlanks [] := by simp [IsBlanks]
  exact .intro hnone hmark

/-- Neither the member itself nor any inside its value names a script. -/
def MemberNamesNone (member : String × Json) : Prop :=
  (∀ script, member.2 = .string script → LooksLikeScript member.1 → script = "") ∧
    NamesNoScript member.2

theorem NamesNoScript.of_array {items : List Json} (hnone : NamesNoScript (.array items)) :
    ∀ item ∈ items, NamesNoScript item :=
  fun _ hitem key script hmember => hnone key script (.inItem hitem hmember)

theorem NamesNoScript.of_object {members : List (String × Json)}
    (hnone : NamesNoScript (.object members)) : ∀ member ∈ members, MemberNamesNone member := by
  rintro ⟨key, value⟩ hother
  constructor
  · rintro script rfl hlooks
    exact hnone key script (.own hother) hlooks
  · intro inner script hmember hlooks
    exact hnone inner script (.inMember hother hmember) hlooks

theorem isSpace_of_isNumeric (hnumeric : Json.IsNumeric c) : Text.isSpace c = false := by
  rcases hnumeric with hdigit | hmark
  · have hcode := Text.isDigit_iff.mp hdigit
    simp only [Text.isSpace, Bool.or_eq_false_iff, Bool.and_eq_false_iff, decide_eq_false_iff_not,
      beq_eq_false_iff_ne]
    omega
  · simp only [Json.numberMarks, List.mem_cons, List.not_mem_nil, or_false] at hmark
    rcases hmark with rfl | rfl | rfl | rfl | rfl <;> decide

/-- Only a string starts with a quote. -/
theorem exists_cons_of_value {value : Json} (hvalue : IsValue depth text value) :
    ∃ c more, text = c :: more ∧ Text.isSpace c = false ∧
      (c = '"' → ∃ content, value = .string content ∧ IsString text content) := by
  cases hvalue with
  | word hword =>
      rcases Json.mem_words.mp hword with ⟨rfl, -⟩ | ⟨rfl, -⟩ | ⟨rfl, -⟩
      all_goals exact ⟨_, _, rfl, by decide, fun hquote => absurd hquote (by decide)⟩
  | number hnumber hfits =>
      obtain ⟨c, more, rfl, hnumeric⟩ := hnumber.exists_cons
      refine ⟨c, more, rfl, isSpace_of_isNumeric hnumeric, ?_⟩
      rintro rfl
      exact absurd hnumeric (by decide)
  | string hstring =>
      obtain ⟨more, rfl⟩ := hstring.exists_cons
      exact ⟨'"', more, rfl, by decide, fun _ => ⟨_, rfl, hstring⟩⟩
  | emptyArray hblanks => exact ⟨'[', _, rfl, by decide, fun hquote => absurd hquote (by decide)⟩
  | array hitems => exact ⟨'[', _, rfl, by decide, fun hquote => absurd hquote (by decide)⟩
  | object hobject =>
      cases hobject
      all_goals exact ⟨'{', _, rfl, by decide, fun hquote => absurd hquote (by decide)⟩

theorem isString_empty (hstring : IsString ('"' :: text) "") : text = ['"'] := by
  generalize hwhole : '"' :: text = whole at hstring
  generalize hempty : "" = content at hstring
  obtain ⟨hcontent⟩ := hstring
  rename_i inner content
  have hnil : content = [] := by simpa using hempty.symm
  subst hnil
  cases hcontent
  exact (List.cons.inj hwhole).2

/-- What a key has assigned is the value behind its colon, so it is a string that is not
empty. -/
theorem exists_script_of_assigns {value : Json} {behind ahead literal : List Char}
    (hvalue : IsValue depth text value) (hbehind : IsBlanks behind) (hahead : IsBlanks ahead)
    (hassigns : Assigns (behind ++ ':' :: (ahead ++ text ++ rest)) literal) :
    ∃ script, value = .string script ∧ script ≠ "" := by
  obtain ⟨gap, gap', more, hgap, hgap', hliteral, htext⟩ := hassigns
  obtain ⟨c, others, rfl, hspace, hstring⟩ := exists_cons_of_value hvalue
  obtain ⟨hinner, hne⟩ := hliteral
  rename_i inner
  have hcolon : Text.isSpace ':' = false := by decide
  have hquote : Text.isSpace '"' = false := by decide
  obtain ⟨-, hbehindColon⟩ := (Text.IsRun.of_next (isGap_of_isBlanks hbehind) hcolon _).unique
    (.of_next hgap hcolon _) htext
  have hassigned := (List.cons.inj hbehindColon).2
  rw [List.append_assoc] at hassigned
  obtain ⟨-, hboth⟩ := (Text.IsRun.of_next (isGap_of_isBlanks hahead) hspace _).unique
    (.of_next hgap' hquote _) hassigned
  obtain ⟨hfirst, hothers⟩ := List.cons.inj hboth
  obtain ⟨content, rfl, hcontent⟩ := hstring hfirst
  refine ⟨content, rfl, ?_⟩
  rintro rfl
  rw [hfirst] at hcontent
  rw [isString_empty hcontent] at hothers
  cases hinner with
  | nil => exact hne rfl
  | plain hquote hbackslash hinner => exact hquote (List.cons.inj hothers).1.symm
  | pair hinner => cases hothers

mutual

theorem skipped_of_value : ∀ {depth : Nat} {text : List Char} {value : Json},
    IsValue depth text value → NamesNoScript value → ∀ {rest : List Char}, EndsValue rest →
      Skipped rest text
  | _, _, _, .word hword, _, _, _ => skipped_of_word hword
  | _, _, _, .number hnumber _, _, _, _ => skipped_of_number hnumber
  | _, _, _, .string hstring, _, _, hends =>
      skipped_of_string hstring hends.head? fun _ hassigns => (hends.not_assigns hassigns).elim
  | _, _, _, .emptyArray hblanks, _, _, _ =>
      skipped_of_enclosed (by decide) (by decide) (skipped_of_blanks hblanks)
  | _, _, _, .array hitems, hnone, rest, _ =>
      skipped_of_enclosed (by decide) (by decide)
        (skipped_of_items hitems hnone.of_array (endsValue_mark (by decide) rest))
  | _, _, _, .object hobject, hnone, _, _ => skipped_of_object hobject hnone.of_object

theorem skipped_of_object : ∀ {depth : Nat} {text : List Char} {members : List (String × Json)},
    IsObject depth text members → (∀ member ∈ members, MemberNamesNone member) →
      ∀ {rest : List Char}, Skipped rest text
  | _, _, _, .empty hblanks, _, _ =>
      skipped_of_enclosed (by decide) (by decide) (skipped_of_blanks hblanks)
  | _, _, _, .members hmembers, hnone, rest =>
      skipped_of_enclosed (by decide) (by decide)
        (skipped_of_members hmembers hnone (endsValue_mark (by decide) rest))

theorem skipped_of_items : ∀ {depth : Nat} {text : List Char} {items : List Json},
    IsItems depth text items → (∀ item ∈ items, NamesNoScript item) →
      ∀ {rest : List Char}, EndsValue rest → Skipped rest text
  | _, _, _, .last hbefore hvalue hafter, hnone, _, hends => by
      rw [List.forall_mem_singleton] at hnone
      have hitem := skipped_of_value hvalue hnone (hends.append hafter)
      exact skipped_append.mpr ⟨skipped_of_blanks hbefore,
        skipped_append.mpr ⟨hitem, skipped_of_blanks hafter⟩⟩
  | _, _, _, .more hbefore hvalue hafter hitems, hnone, _, hends => by
      rw [List.forall_mem_cons] at hnone
      have hitem := fun others =>
        skipped_of_value hvalue hnone.1 (endsValue_comma hafter others)
      have hothers := skipped_of_items hitems hnone.2 hends
      rw [skipped_append, skipped_append, skipped_append, skipped_cons_of_ne_quote (by decide)]
      refine ⟨skipped_of_blanks hbefore, ?_, skipped_of_blanks hafter, hothers⟩
      rw [List.append_assoc]
      exact hitem _

theorem skipped_of_member : ∀ {depth : Nat} {text : List Char} {member : String × Json},
    IsMember depth text member → MemberNamesNone member →
      ∀ {rest : List Char}, EndsValue rest → Skipped rest text
  | _, _, _, .intro hbefore hkey hbehind hahead hvalue, hnone, _, hends => by
      have hitem := skipped_of_value hvalue hnone.2 hends
      rw [skipped_append, skipped_append, skipped_append, skipped_cons_of_ne_quote (by decide),
        skipped_append]
      refine ⟨skipped_of_blanks hbefore, ?_, skipped_of_blanks hbehind,
        skipped_of_blanks hahead, hitem⟩
      rw [List.append_assoc]
      apply skipped_of_string hkey (head?_of_blanks hbehind (by decide))
      intro literal hassigns hlooks
      obtain ⟨script, hscript, hne⟩ := exists_script_of_assigns hvalue hbehind hahead hassigns
      exact hne (hnone.1 script hscript hlooks)

theorem skipped_of_members : ∀ {depth : Nat} {text : List Char} {members : List (String × Json)},
    IsMembers depth text members → (∀ member ∈ members, MemberNamesNone member) →
      ∀ {rest : List Char}, EndsValue rest → Skipped rest text
  | _, _, _, .last hmember hafter, hnone, _, hends => by
      rw [List.forall_mem_singleton] at hnone
      have hown := skipped_of_member hmember hnone (hends.append hafter)
      exact skipped_append.mpr ⟨hown, skipped_of_blanks hafter⟩
  | _, _, _, .more hmember hafter hmembers, hnone, _, hends => by
      rw [List.forall_mem_cons] at hnone
      have hown := fun others =>
        skipped_of_member hmember hnone.1 (endsValue_comma hafter others)
      have hothers := skipped_of_members hmembers hnone.2 hends
      rw [skipped_append, skipped_append, skipped_cons_of_ne_quote (by decide)]
      refine ⟨?_, skipped_of_blanks hafter, hothers⟩
      rw [List.append_assoc]
      exact hown _

end

/-! ## Behind the colon -/

/-- Members of an object, each with a comma behind it. -/
inductive IsLead : Nat → List Char → List (String × Json) → Prop
  | nil {depth : Nat} : IsLead depth [] []
  | cons {depth : Nat} {text after rest : List Char} {member : String × Json}
      {members : List (String × Json)} (hmember : IsMember depth text member)
      (hafter : IsBlanks after) (hlead : IsLead depth rest members) :
      IsLead depth (text ++ (after ++ ',' :: rest)) (member :: members)

/-- An object starts the text that has `js` with the script as its value; nothing in the members
before looks like that.  What follows the value need not even be JSON. -/
inductive OwnsScript : List Char → String → Prop
  | intro {depth : Nat} {lead before behind ahead quoted rest : List Char}
      {members : List (String × Json)} {script : String} (hlead : IsLead depth lead members)
      (hnone : ∀ member ∈ members, MemberNamesNone member) (hbefore : IsBlanks before)
      (hbehind : IsBlanks behind) (hahead : IsBlanks ahead) (hvalue : IsString quoted script) :
      OwnsScript
        ('{' :: (lead ++ (before ++
          ("\"js\"".toList ++ (behind ++ ':' :: (ahead ++ (quoted ++ rest))))))) script

theorem skipped_of_lead {members : List (String × Json)} (hlead : IsLead depth text members)
    (hnone : ∀ member ∈ members, MemberNamesNone member) : Skipped rest text := by
  induction hlead with
  | nil => trivial
  | cons hmember hafter hlead ih =>
      rw [List.forall_mem_cons] at hnone
      have hown := fun others =>
        skipped_of_member hmember hnone.1 (endsValue_comma hafter others)
      rw [skipped_append, skipped_append, skipped_cons_of_ne_quote (by decide)]
      refine ⟨?_, skipped_of_blanks hafter, ih hnone.2⟩
      rw [List.append_assoc]
      exact hown _

/-- The character that is left out behind the colon is a blank or the brace. -/
theorem firstInTails_behind_colon {gap inner : List Char} (hgap : Text.IsGap gap) :
    firstInTails scriptLiteral? ((gap ++ '{' :: inner).drop 1) =
      firstInTails scriptLiteral? inner := by
  cases gap with
  | nil => rfl
  | cons c gap =>
      have hquote : '"' ∉ gap ++ ['{'] := by
        have hnone := hgap.not_mem (by decide : Text.isSpace '"' = false)
        simp at hnone ⊢
        exact hnone.2
      have hdropped : (c :: gap ++ '{' :: inner).drop 1 = gap ++ ['{'] ++ inner := by simp
      rw [hdropped]
      exact firstInTails_skipped (skipped_of_no_quote hquote)

variable {page origin : String} {gap object : List Char}

/-- The own script of an object is found first. -/
theorem firstInTails_of_owns {script : String} (howns : OwnsScript object script)
    (hgap : Text.IsGap gap) (hne : script ≠ "") :
    ∃ literal, firstInTails scriptLiteral? ((gap ++ object).drop 1) = some literal ∧
      IsString literal script := by
  obtain ⟨hlead, hnone, hbefore, hbehind, hahead, hvalue⟩ := howns
  rename_i quoted rest members
  refine ⟨quoted, ?_, hvalue⟩
  rw [firstInTails_behind_colon hgap, firstInTails_skipped (skipped_of_lead hlead hnone),
    firstInTails_skipped (skipped_of_blanks hbefore)]
  apply firstInTails_of_front
  exact scriptLiteral?_eq_some.mpr ⟨_, rfl, _, _, rest, isGap_of_isBlanks hbehind,
    isGap_of_isBlanks hahead, isLiteral_of_isString hvalue hne, rfl⟩

theorem firstInTails_of_object {members : List (String × Json)}
    (hobject : IsObject depth object members) (hgap : Text.IsGap gap)
    (hnone : ∀ member ∈ members, MemberNamesNone member) (rest : List Char) :
    firstInTails scriptLiteral? ((gap ++ (object ++ rest)).drop 1) =
      firstInTails scriptLiteral? rest := by
  have hskipped : Skipped rest object := skipped_of_object hobject hnone
  obtain ⟨inner, rfl⟩ : ∃ inner, object = '{' :: inner := by
    cases hobject with
    | empty hblanks => exact ⟨_, rfl⟩
    | members hmembers => exact ⟨_, rfl⟩
  rw [List.cons_append, firstInTails_behind_colon hgap]
  exact firstInTails_skipped hskipped.2

theorem playerScriptUrl?_of_assets {page origin url : String} {tail : List Char}
    (hassets : FirstWith OpensAssets page.toList tail) :
    playerScriptUrl? page origin = some url ↔ GivesUrl (tail.drop 1) origin url := by
  rw [playerScriptUrl?_eq_some]
  constructor
  · rintro ⟨other, hother, hgives⟩
    have hsame : some other = some tail :=
      (afterAssets?_eq_some.mpr hother).symm.trans (afterAssets?_eq_some.mpr hassets)
    rwa [← Option.some.inj hsame]
  · intro hgives
    exact ⟨tail, hassets, hgives⟩

/-- The player script is what is named first behind the colon of `"assets"`: that of the object
there if nothing in front of its `js` looks like it, and what is named behind that object if
nothing in it does.  That none is named is the only failure of a lookup on a fetched page. -/
theorem player_script_is_first_behind_assets (page origin : String) :
    (∀ url, playerScriptUrl? page origin = some url ↔
      ∃ tail, FirstWith OpensAssets page.toList tail ∧ GivesUrl (tail.drop 1) origin url) ∧
    (∀ (gap object : List Char) (script : String),
      FirstWith OpensAssets page.toList (gap ++ object) → Text.IsGap gap →
      OwnsScript object script → script ≠ "" →
        playerScriptUrl? page origin = some (absoluteUrl origin script)) ∧
    (∀ (url : String) (gap object rest : List Char) (depth : Nat)
      (members : List (String × Json)),
      FirstWith OpensAssets page.toList (gap ++ (object ++ rest)) → Text.IsGap gap →
      IsObject depth object members → NamesNoScript (.object members) →
        (playerScriptUrl? page origin = some url ↔ GivesUrl rest origin url)) ∧
    ∀ (network : Network) (asked : List Request) (settings : PlatformSettings) (id : VideoId),
      Resolution.pageAfter network asked (settings.watchUrlFor id.text) = .ok page →
        Resolution.Course network asked (Resolution.locatePlayerScript settings id)
          [Resolution.watchRequest settings id]
          ((playerScriptUrl? page settings.origin).elim (.error .playerScriptNotFound) .ok) := by
  refine ⟨fun _ => playerScriptUrl?_eq_some, ?_, ?_, ?_⟩
  · intro gap object script hassets hgap howns hne
    obtain ⟨literal, hliteral, hstring⟩ := firstInTails_of_owns howns hgap hne
    rw [playerScriptUrl?_of_assets hassets, givesUrl_iff]
    exact ⟨literal, script, hliteral, Json.parse?_of_isValue (.string hstring), rfl⟩
  · intro url gap object rest depth members hassets hgap hobject hnone
    rw [playerScriptUrl?_of_assets hassets, givesUrl_iff,
      firstInTails_of_object hobject hgap hnone.of_object, ← givesUrl_iff]
  · intro network asked settings id hpage
    have hfetched : Resolution.Course network asked
        (Resolution.fetchText (settings.watchUrlFor id.text)) [Resolution.watchRequest settings id]
        (Resolution.pageAfter network asked (settings.watchUrlFor id.text)) := .fetchText _
    rw [hpage] at hfetched
    exact hfetched.andThen fun page => .orElseFail _ _

/-- An object with a member in front of `js`, and one without `js`. -/
def ownedObject : List Char :=
  "\x7b\"a\": null, \"js\": \"/p.js\"\x7d, \"js\": \"/q.js\"".toList

def bareObject : List Char :=
  "\x7b\"a\": null\x7d".toList

def scriptPage (object : List Char) : String :=
  String.ofList ("\"assets\": ".toList ++ object)

def scriptNetwork : Network where
  get _ _ := .ok { status := 200, body := (scriptPage ownedObject).toUTF8.toList }
  head _ _ := .ok 200

theorem isMember_null : IsMember 1 "\"a\": null".toList ("a", .null) := by
  have hnil : IsBlanks [] := by simp [IsBlanks]
  have hblank : IsBlanks [' '] := by simp [IsBlanks, Json.isBlank]
  have hkey : IsString ('"' :: (['a'] ++ ['"'])) (String.ofList ['a']) :=
    .quoted (.plain (by decide) (by decide) (by decide) .nil)
  have hvalue : IsValue 1 "null".toList .null := .word (by simp [Json.words])
  exact .intro hnil hkey hnil hblank hvalue

theorem memberNamesNone_null : MemberNamesNone ("a", .null) := by
  constructor
  · rintro script ⟨⟩
  · rintro key script ⟨⟩

theorem namesNoScript_bareObject : NamesNoScript (.object [("a", .null)]) := by
  intro key script hscript
  cases hscript with
  | own hmember => simp at hmember
  | inMember hother hinner =>
      rw [List.mem_singleton] at hother
      rw [hother] at hinner
      cases hinner

theorem ownsScript_ownedObject : OwnsScript ownedObject "/p.js" := by
  have hnil : IsBlanks [] := by simp [IsBlanks]
  have hblank : IsBlanks [' '] := by simp [IsBlanks, Json.isBlank]
  have hscript : IsString ('"' :: ("/p.js".toList ++ ['"'])) (String.ofList "/p.js".toList) :=
    .quoted (.plain (by decide) (by decide) (by decide) (.plain (by decide) (by decide)
      (by decide) (.plain (by decide) (by decide) (by decide) (.plain (by decide) (by decide)
        (by decide) (.plain (by decide) (by decide) (by decide) .nil)))))
  exact .intro (.cons isMember_null hnil .nil)
    (List.forall_mem_singleton.mpr memberNamesNone_null) hblank hnil hblank hscript

theorem player_script_is_first_behind_assets_of_members :
    let later := ", \"js\": \"/q.js\"".toList
    let id : VideoId := ⟨"v", by decide, by decide⟩
    let settings : PlatformSettings := { origin := "https://o/" }
    (FirstWith OpensAssets (scriptPage ownedObject).toList ([' '] ++ ownedObject) ∧
        OwnsScript ownedObject "/p.js" ∧
        playerScriptUrl? (scriptPage ownedObject) "https://o/" = some "https://o/p.js") ∧
      (FirstWith OpensAssets (scriptPage (bareObject ++ later)).toList
          ([' '] ++ (bareObject ++ later)) ∧
        IsObject 2 bareObject [("a", .null)] ∧ NamesNoScript (.object [("a", .null)]) ∧
        GivesUrl later "https://o/" "https://o/q.js") ∧
      Resolution.pageAfter scriptNetwork [] (settings.watchUrlFor id.text) =
          .ok (scriptPage ownedObject) ∧
        Resolution.Course scriptNetwork [] (Resolution.locatePlayerScript settings id)
          [Resolution.watchRequest settings id] (.ok "https://o/p.js") := by
  intro later id settings
  have hgap : Text.IsGap [' '] := Text.isGap_space
  have hassets : FirstWith OpensAssets (scriptPage ownedObject).toList ([' '] ++ ownedObject) :=
    afterAssets?_eq_some.mp (by decide +kernel)
  have hlater : FirstWith OpensAssets (scriptPage (bareObject ++ later)).toList
      ([' '] ++ (bareObject ++ later)) := afterAssets?_eq_some.mp (by decide +kernel)
  have hnil : IsBlanks [] := by simp [IsBlanks]
  have hobject : IsObject 2 bareObject [("a", .null)] := .members (.last isMember_null hnil)
  obtain ⟨-, howned, -, hlocated⟩ :=
    player_script_is_first_behind_assets (scriptPage ownedObject) "https://o/"
  obtain ⟨-, -, hbare, -⟩ :=
    player_script_is_first_behind_assets (scriptPage (bareObject ++ later)) "https://o/"
  have hurl := howned _ _ _ hassets hgap ownsScript_ownedObject (by decide)
  have habsolute : absoluteUrl "https://o/" "/p.js" = "https://o/p.js" := by decide +kernel
  rw [habsolute] at hurl
  have hfetched : Resolution.pageAfter scriptNetwork [] (settings.watchUrlFor id.text) =
      .ok (scriptPage ownedObject) := by decide +kernel
  refine ⟨⟨hassets, ownsScript_ownedObject, hurl⟩,
    ⟨hlater, hobject, namesNoScript_bareObject, ?_⟩, hfetched, ?_⟩
  · have hfound : playerScriptUrl? (scriptPage (bareObject ++ later)) "https://o/" =
        some "https://o/q.js" := by decide +kernel
    exact (hbare _ _ _ _ _ _ hlater hgap hobject namesNoScript_bareObject).mp hfound
  · have hcourse := hlocated scriptNetwork [] settings id hfetched
    have hresult : playerScriptUrl? (scriptPage ownedObject) settings.origin =
        some "https://o/p.js" := hurl
    rwa [hresult] at hcourse

/-- A script that is nested in the object, or that follows it, is taken as well. -/
theorem scripts_of_other_objects_are_taken :
    (Json.parse? "\x7b\x7d".toList = some (.object []) ∧
        playerScriptUrl? "\"assets\":\x7b\x7d,\"x\":\x7b\"js\":\"/p.js\"\x7d" "https://o" =
          some "https://o/p.js") ∧
      Json.parse? "\x7b\"a\":\x7b\"js\":\"/x.js\"\x7d,\"js\":\"/p.js\"\x7d".toList =
          some (.object [("a", .object [("js", .string "/x.js")]), ("js", .string "/p.js")]) ∧
        playerScriptUrl?
            "\"assets\":\x7b\"a\":\x7b\"js\":\"/x.js\"\x7d,\"js\":\"/p.js\"\x7d" "https://o" =
          some "https://o/x.js" := by
  refine ⟨⟨?_, ?_⟩, ?_, ?_⟩
  · cbv
  · decide +kernel
  · cbv
  · decide +kernel

end StreamLinks.Page
