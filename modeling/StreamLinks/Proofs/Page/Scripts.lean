import StreamLinks.Proofs.Json.Grammar
import StreamLinks.Proofs.Json.Members
import StreamLinks.Proofs.Page.Search

/-!
# Places where scripts are named

A page is searched behind the colon of `"assets"`, but not at the first character there, for
`"js"`, a colon and a string literal.  The search knows nothing of objects: what it finds is
told by the first place where these stand.
-/

namespace StreamLinks.Page

open Json (IsContent IsEscape IsString)

variable {text rest literal tail : List Char} {c : Char}

/-! ## String literals -/

/-- What may stand between the quotes of a literal: a backslash takes the character behind it
along. -/
inductive IsQuoted : List Char → Prop
  | nil : IsQuoted []
  | plain {c : Char} {text : List Char} (hquote : c ≠ '"') (hbackslash : c ≠ '\\')
      (hrest : IsQuoted text) : IsQuoted (c :: text)
  | pair {c : Char} {text : List Char} (hrest : IsQuoted text) : IsQuoted ('\\' :: c :: text)

/-- A literal with its quotes that is not empty. -/
inductive IsLiteral : List Char → Prop
  | intro {inner : List Char} (hinner : IsQuoted inner) (hne : inner ≠ []) :
      IsLiteral ('"' :: (inner ++ ['"']))

theorem literalLength?_quoted (hquoted : IsQuoted text) (rest : List Char) :
    literalLength? false (text ++ '"' :: rest) = some (text.length + 1) := by
  induction hquoted with
  | nil => rfl
  | plain hquote hbackslash hrest ih =>
      rw [List.cons_append, literalLength?, if_neg hquote, decide_eq_false hbackslash, ih]
      rfl
  | @pair c text hrest ih =>
      have hprotected : literalLength? false ('\\' :: c :: (text ++ '"' :: rest)) =
          ((literalLength? false (text ++ '"' :: rest)).map (· + 1)).map (· + 1) := rfl
      rw [List.cons_append, List.cons_append, hprotected, ih]
      rfl

/-- A literal is as long as what stands between its quotes; behind a backslash, that goes on
from the backslash. -/
theorem exists_quoted {escaped : Bool} {length : Nat}
    (hlength : literalLength? escaped text = some length) :
    ∃ inner rest, IsQuoted ((if escaped then ['\\'] else []) ++ inner) ∧
      text = inner ++ '"' :: rest ∧ length = inner.length + 1 := by
  induction text generalizing escaped length with
  | nil =>
      unfold literalLength? at hlength
      cases hlength
  | cons c text ih =>
      cases escaped with
      | true =>
          obtain ⟨shorter, hshorter, rfl⟩ := Option.map_eq_some_iff.mp hlength
          obtain ⟨inner, rest, hquoted, rfl, rfl⟩ := ih hshorter
          exact ⟨c :: inner, rest, .pair hquoted, rfl, rfl⟩
      | false =>
          unfold literalLength? at hlength
          split at hlength
          next hquote =>
            cases hlength
            exact ⟨[], text, .nil, by rw [hquote, List.nil_append], rfl⟩
          next hquote =>
            obtain ⟨shorter, hshorter, rfl⟩ := Option.map_eq_some_iff.mp hlength
            obtain ⟨inner, rest, hquoted, rfl, rfl⟩ := ih hshorter
            refine ⟨c :: inner, rest, ?_, rfl, rfl⟩
            by_cases hbackslash : c = '\\'
            · rw [hbackslash] at hquoted ⊢
              exact hquoted
            · rw [decide_eq_false hbackslash] at hquoted
              exact .plain hquote hbackslash hquoted

theorem take_literal (inner rest : List Char) :
    ('"' :: (inner ++ '"' :: rest)).take (inner.length + 1 + 1) = '"' :: (inner ++ ['"']) := by
  have hsplit : '"' :: (inner ++ '"' :: rest) = '"' :: (inner ++ ['"']) ++ rest := by simp
  rw [hsplit]
  exact List.take_left' (by simp)

theorem stringLiteral?_eq_some :
    stringLiteral? text = some literal ↔ IsLiteral literal ∧ literal <+: text := by
  unfold stringLiteral?
  constructor
  · intro hliteral
    obtain ⟨behind, hbehind, hliteral⟩ := Option.bind_eq_some_iff.mp hliteral
    obtain ⟨length, hlength, hliteral⟩ := Option.bind_eq_some_iff.mp hliteral
    obtain ⟨inner, rest, hquoted, rfl, rfl⟩ := exists_quoted hlength
    have htext := Text.after?_eq_some.mp hbehind
    split at hliteral
    next => cases hliteral
    next hne =>
      cases hliteral
      rw [htext, List.singleton_append, take_literal]
      refine ⟨.intro hquoted ?_, rest, by simp⟩
      rintro rfl
      exact hne rfl
  · rintro ⟨⟨hquoted, hne⟩, rest, rfl⟩
    rename_i inner
    have hbehind : Text.after? ['"'] ('"' :: (inner ++ ['"']) ++ rest) =
        some (inner ++ '"' :: rest) := Text.after?_eq_some.mpr (by simp)
    have hlong : ¬ inner.length + 1 = 1 := by simpa using hne
    refine Option.bind_eq_some_iff.mpr ⟨_, hbehind, Option.bind_eq_some_iff.mpr
      ⟨_, literalLength?_quoted hquoted rest, ?_⟩⟩
    rw [if_neg hlong]
    have hwhole : '"' :: (inner ++ ['"']) ++ rest = '"' :: (inner ++ '"' :: rest) := by simp
    rw [hwhole, take_literal]
    rfl

/-! ## Literals of JSON -/

theorem isQuoted_of_digits {high n : Nat} (hdigits : Text.hexNumberFrom? high text = some n)
    (hrest : IsQuoted rest) : IsQuoted (text ++ rest) := by
  have hquote := Json.not_mem_of_hexNumberFrom? (c := '"') (by decide) hdigits
  have hbackslash := Json.not_mem_of_hexNumberFrom? (c := '\\') (by decide) hdigits
  clear hdigits
  induction text with
  | nil => exact hrest
  | cons c text ih =>
      rw [List.mem_cons, not_or] at hquote hbackslash
      exact .plain (Ne.symm hquote.1) (Ne.symm hbackslash.1) (ih hquote.2 hbackslash.2)

theorem isQuoted_of_content {content : List Char} (hcontent : IsContent text content) :
    IsQuoted text := by
  induction hcontent with
  | nil => exact .nil
  | plain hquote hbackslash hcontrol hrest ih => exact .plain hquote hbackslash ih
  | escape hescape hrest ih =>
      cases hescape with
      | short hmark => exact .pair ih
      | unit hdigits hhigh hlow => exact .pair (isQuoted_of_digits hdigits.2 ih)
      | pair hdigits hdigits' hhigh hlow =>
          have hsecond := IsQuoted.pair (c := 'u') (isQuoted_of_digits hdigits'.2 ih)
          have hboth := IsQuoted.pair (c := 'u') (isQuoted_of_digits hdigits.2 hsecond)
          simpa using hboth

/-- A string that is not empty is written by a literal that is not empty. -/
theorem isLiteral_of_isString {content : String} (hstring : IsString text content)
    (hne : content ≠ "") : IsLiteral text := by
  cases hstring with
  | quoted hcontent =>
      apply IsLiteral.intro (isQuoted_of_content hcontent)
      rintro rfl
      cases hcontent
      exact hne rfl

/-! ## Places -/

/-- `"assets"` and a colon start the text, and `tail` stands behind them. -/
def OpensAssets (text tail : List Char) : Prop :=
  ∃ gap, Text.IsGap gap ∧ text = "\"assets\"".toList ++ (gap ++ ':' :: tail)

/-- A colon and the literal start the text. -/
def Assigns (text literal : List Char) : Prop :=
  ∃ gap gap' rest, Text.IsGap gap ∧ Text.IsGap gap' ∧ IsLiteral literal ∧
    text = gap ++ ':' :: (gap' ++ (literal ++ rest))

/-- `"js"`, a colon and the literal start the text. -/
def NamesScript (text literal : List Char) : Prop :=
  ∃ rest, text = "\"js\"".toList ++ rest ∧ Assigns rest literal

theorem afterAssets?_eq_some :
    afterAssets? text = some tail ↔ FirstWith OpensAssets text tail := by
  apply firstInTails_iff
  intro text tail
  constructor
  · intro hfound
    obtain ⟨behind, hbehind, hcolon⟩ := Option.bind_eq_some_iff.mp hfound
    obtain ⟨gap, hgap, hskipped⟩ := isGap_skipped behind
    refine ⟨gap, hgap, ?_⟩
    rw [Text.after?_eq_some.mp hbehind, hskipped, Text.after?_eq_some.mp hcolon,
      List.singleton_append]
  · rintro ⟨gap, hgap, rfl⟩
    have hskipped : skipSpace (gap ++ ':' :: tail) = ':' :: tail := by
      apply skipSpace_append hgap
      intro c hc
      cases hc
      decide
    refine Option.bind_eq_some_iff.mpr ⟨_, Text.after?_eq_some.mpr rfl, ?_⟩
    rw [hskipped]
    exact Text.after?_eq_some.mpr rfl

theorem scriptLiteral?_eq_some :
    scriptLiteral? text = some literal ↔ NamesScript text literal := by
  have hmark : Text.isSpace ':' = false := by decide
  unfold scriptLiteral?
  constructor
  · intro hscript
    obtain ⟨behind, hbehind, hmarked⟩ := Option.bind_eq_some_iff.mp hscript
    obtain ⟨value, hvalue, htaken⟩ := Option.bind_eq_some_iff.mp hmarked
    obtain ⟨hliteral, rest, rfl⟩ := stringLiteral?_eq_some.mp htaken
    obtain ⟨gap, gap', hgap, hgap', rfl, -⟩ := (afterMark?_eq_some hmark).mp hvalue
    exact ⟨_, Text.after?_eq_some.mp hbehind, gap, gap', rest, hgap, hgap', hliteral, rfl⟩
  · rintro ⟨behind, rfl, gap, gap', rest, hgap, hgap', hliteral, rfl⟩
    have hstops : ∀ c, (literal ++ rest).head? = some c → Text.isSpace c = false := by
      cases hliteral
      intro c hc
      cases hc
      decide
    have hvalue : afterMark? ':' (gap ++ ':' :: (gap' ++ (literal ++ rest))) =
        some (literal ++ rest) :=
      (afterMark?_eq_some hmark).mpr ⟨gap, gap', hgap, hgap', rfl, hstops⟩
    exact Option.bind_eq_some_iff.mpr ⟨_, Text.after?_eq_some.mpr rfl,
      Option.bind_eq_some_iff.mpr ⟨_, hvalue,
        stringLiteral?_eq_some.mpr ⟨hliteral, List.prefix_append literal rest⟩⟩⟩

/-- A script can only be named where a quote stands. -/
theorem scriptLiteral?_of_ne_quote (hc : c ≠ '"') (text : List Char) :
    scriptLiteral? (c :: text) = none := by
  have hname : "\"js\"".toList = '"' :: "js\"".toList := by decide +kernel
  rw [scriptLiteral?, hname, Text.after?, if_neg (Ne.symm hc)]
  rfl

theorem exists_assigned {literal : List Char}
    (hscript : scriptLiteral? ('"' :: text) = some literal) :
    ∃ rest, text = 'j' :: 's' :: '"' :: rest ∧ Assigns rest literal := by
  have hname : "\"js\"".toList = ['"', 'j', 's', '"'] := by decide +kernel
  obtain ⟨rest, htext, hassigns⟩ := scriptLiteral?_eq_some.mp hscript
  rw [hname] at htext
  exact ⟨rest, (List.cons.inj htext).2, hassigns⟩

theorem Assigns.head? (hassigns : Assigns text literal) :
    (skipSpace text).head? = some ':' := by
  obtain ⟨gap, gap', rest, hgap, -, -, rfl⟩ := hassigns
  rw [skipSpace_append hgap]
  · rfl
  · intro c hc
    cases hc
    decide

/-! ## Texts that are passed over -/

/-- No script is named anywhere within the text, with `rest` behind it. -/
def Skipped (rest : List Char) : List Char → Prop
  | [] => True
  | c :: text => scriptLiteral? (c :: (text ++ rest)) = none ∧ Skipped rest text

theorem skipped_append {text' : List Char} :
    Skipped rest (text ++ text') ↔ Skipped (text' ++ rest) text ∧ Skipped rest text' := by
  induction text with
  | nil => simp [Skipped]
  | cons c text ih =>
      rw [List.cons_append, Skipped, Skipped, ih, List.append_assoc, and_assoc]

theorem skipped_of_no_quote (hquote : '"' ∉ text) : Skipped rest text := by
  induction text with
  | nil => trivial
  | cons c text ih =>
      rw [List.mem_cons, not_or] at hquote
      exact ⟨scriptLiteral?_of_ne_quote (Ne.symm hquote.1) _, ih hquote.2⟩

theorem skipped_cons_of_ne_quote (hc : c ≠ '"') :
    Skipped rest (c :: text) ↔ Skipped rest text :=
  and_iff_right (scriptLiteral?_of_ne_quote hc _)

theorem firstInTails_skipped (hskipped : Skipped rest text) :
    firstInTails scriptLiteral? (text ++ rest) = firstInTails scriptLiteral? rest := by
  induction text with
  | nil => rfl
  | cons c text ih => rw [List.cons_append, firstInTails, hskipped.1, ih hskipped.2]; rfl

theorem firstInTails_of_front (hscript : scriptLiteral? text = some literal) :
    firstInTails scriptLiteral? text = some literal := by
  cases text with
  | nil => exact hscript
  | cons c text =>
      rw [firstInTails, hscript]
      rfl

/-! ## What is taken from the page -/

/-- The first script that the text names, made absolute. -/
def GivesUrl (text : List Char) (origin url : String) : Prop :=
  ∃ literal script, FirstWith NamesScript text literal ∧
    Json.parse? literal = some (.string script) ∧ url = absoluteUrl origin script

theorem givesUrl_iff {origin url : String} : GivesUrl text origin url ↔
    ∃ literal script, firstInTails scriptLiteral? text = some literal ∧
      Json.parse? literal = some (.string script) ∧ url = absoluteUrl origin script := by
  simp only [firstInTails_iff scriptLiteral?_eq_some]
  rfl

theorem playerScriptUrl?_eq_some {page origin url : String} :
    playerScriptUrl? page origin = some url ↔
      ∃ tail, FirstWith OpensAssets page.toList tail ∧ GivesUrl (tail.drop 1) origin url := by
  unfold playerScriptUrl?
  constructor
  · intro hurl
    obtain ⟨tail, htail, hfound⟩ := Option.bind_eq_some_iff.mp hurl
    obtain ⟨literal, hliteral, hread⟩ := Option.bind_eq_some_iff.mp hfound
    obtain ⟨value, hvalue, hscript⟩ := Option.bind_eq_some_iff.mp hread
    obtain ⟨script, hstring, habsolute⟩ := Option.bind_eq_some_iff.mp hscript
    rw [Json.string?_eq_some.mp hstring] at hvalue
    refine ⟨tail, afterAssets?_eq_some.mp htail, givesUrl_iff.mpr ⟨literal, script, hliteral,
      hvalue, (Option.some.inj habsolute).symm⟩⟩
  · rintro ⟨tail, htail, hgives⟩
    obtain ⟨literal, script, hliteral, hvalue, rfl⟩ := givesUrl_iff.mp hgives
    simp only [afterAssets?_eq_some.mpr htail, hliteral, hvalue, Option.bind_eq_bind,
      Option.bind_some, Json.string?, Option.pure_def]

end StreamLinks.Page
