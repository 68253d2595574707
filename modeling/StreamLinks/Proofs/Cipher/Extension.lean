import Mathlib.Data.Option.Basic
import StreamLinks.Proofs.Cipher.Cache
import StreamLinks.Proofs.Cipher.Definitions

/-!
# Text behind the functions in use

A definition ends at the brace that closes it, so it stays what it is when the script
goes on.  Nor can a definition that was only begun be finished by the text behind: one
that is complete stands further on, and its parenthesis and braces would have closed the
one that was begun.  So the leftmost definition of a name stays the leftmost, and
whatever a script computes without missing a function it computes whatever follows.
-/

namespace StreamLinks.Cipher

open Text (IsGap)

/-! ## Definitions in front of their closing brace -/

/-- The text of a definition in front of the brace that closes it. -/
inductive Unclosed (IsOpening : List Char → Prop) : Definition → List Char → Prop
  | intro {opening params gap body : List Char} (hopening : IsOpening opening)
      (hparams : ')' ∉ params) (hgap : IsGap gap) (hbody : '}' ∉ body) :
      Unclosed IsOpening ⟨String.ofList params, String.ofList body⟩
        (opening ++ '(' :: (params ++ ')' :: (gap ++ '{' :: body)))

/-- At the front of a text the search finds the definitions with such an opening, and
nothing else. -/
def Finds (find? : List Char → Option Definition) (IsOpening : List Char → Prop) : Prop :=
  ∀ text definition, find? text = some definition ↔
    ∃ front rest, Unclosed IsOpening definition front ∧ text = front ++ '}' :: rest

theorem definitionTail?_finds : Finds definitionTail? IsGap := by
  intro text definition
  constructor
  · intro h
    simp only [definitionTail?, Option.bind_eq_bind, Option.bind_eq_some_iff,
      Text.after?_eq_some] at h
    obtain ⟨inside, hinside, ⟨params, left⟩, hparams, behind, hbehind, ⟨body, rest⟩, hbody,
      heq⟩ := h
    obtain ⟨rfl, hparamsEnd⟩ := Text.cutAt?_eq_some.mp hparams
    obtain ⟨rfl, hbodyEnd⟩ := Text.cutAt?_eq_some.mp hbody
    obtain ⟨gap, hgap, htext⟩ := isGap_skipped text
    obtain ⟨gap', hgap', hleft⟩ := isGap_skipped left
    cases heq
    refine ⟨_, rest, .intro hgap hparamsEnd hgap' hbodyEnd, ?_⟩
    rw [htext, hinside, hleft, hbehind]
    simp
  · rintro ⟨front, rest, ⟨hgap, hparams, hgap', hbody⟩, rfl⟩
    have htail := @definitionTail?_of_text _ _ _ _ rest hgap hgap' hparams hbody
    simpa using htail

/-- What leads to the parenthesis can be more than white space. -/
theorem Unclosed.lead {IsOpening : List Char → Prop} {definition : Definition}
    {lead front : List Char} (hlead : ∀ gap, IsGap gap → IsOpening (lead ++ gap))
    (hfront : Unclosed IsGap definition front) : Unclosed IsOpening definition (lead ++ front) := by
  obtain ⟨hgap, hparams, hgap', hbody⟩ := hfront
  rw [← List.append_assoc]
  exact .intro (hlead _ hgap) hparams hgap' hbody

section

variable {name : List Char}

theorem declared?_finds (hname : IsName name) :
    Finds (declared? name) (IsDeclaredOpening name) := by
  intro text definition
  constructor
  · intro h
    obtain ⟨gap, rest, hne, hgap, rfl, htail⟩ := declared?_text h
    obtain ⟨front, behind, hfront, rfl⟩ := (definitionTail?_finds _ _).mp htail
    refine ⟨("function".toList ++ gap ++ name) ++ front, behind, hfront.lead ?_, by simp⟩
    exact fun gap' hgap' => ⟨gap, gap', hne, hgap, hgap', rfl⟩
  · rintro ⟨_, rest, ⟨⟨gap, gap', hne, hgap, hgap', rfl⟩, hparams, hgap'', hbody⟩, rfl⟩
    have htail := @definitionTail?_of_text _ _ _ _ rest hgap' hgap'' hparams hbody
    rw [← htail, ← declared?_of_text hname hgap hne]
    simp

theorem assigned?_finds (name : List Char) :
    Finds (assigned? name) (IsAssignedOpening name) := by
  intro text definition
  constructor
  · intro h
    obtain ⟨gap, gap', rest, hgap, hgap', rfl, htail⟩ := assigned?_text h
    obtain ⟨front, behind, hfront, rfl⟩ := (definitionTail?_finds _ _).mp htail
    refine ⟨(name ++ gap ++ '=' :: gap' ++ "function".toList) ++ front, behind,
      hfront.lead ?_, by simp⟩
    exact fun gap'' hgap'' => ⟨gap, gap', gap'', hgap, hgap', hgap'', rfl⟩
  · rintro ⟨_, rest, ⟨⟨gap, gap', gap'', hgap, hgap', hgap'', rfl⟩, hparams, hgap''', hbody⟩,
      rfl⟩
    have htail := @definitionTail?_of_text _ _ _ _ rest hgap'' hgap''' hparams hbody
    rw [← htail, ← @assigned?_of_text name gap gap' _ hgap hgap']
    simp

end

/-! ## Searches in a longer text -/

/-- What has to stand behind the opening of a definition, in this order. -/
def closingMarks : List Char := [')', '{', '}']

theorem sublist_of_append {α : Type} {a : α} {as front back : List α} (ha : a ∉ front)
    (h : (a :: as).Sublist (front ++ back)) : (a :: as).Sublist back := by
  obtain ⟨l, l', heq, hl, hl'⟩ := List.sublist_append_iff.mp h
  cases l with
  | nil => exact heq ▸ hl'
  | cons b l =>
      obtain ⟨rfl, -⟩ := List.cons.inj heq
      exact absurd (hl.mem List.mem_cons_self) ha

theorem cons_sublist_append {α : Type} {as back : List α} (h : as.Sublist back) (a : α)
    (front : List α) : (a :: as).Sublist (front ++ a :: back) :=
  (h.cons_cons a).trans (List.sublist_append_right front (a :: back))

section

variable {name front text : List Char} {find? : List Char → Option Definition}
  {IsOpening : List Char → Prop} {definition : Definition}

/-- A definition that is not closed does not have the marks behind its opening. -/
theorem Unclosed.not_closed (hopening : ∀ opening, IsOpening opening → ')' ∉ opening)
    (hfront : Unclosed IsOpening definition front) : ¬ closingMarks.Sublist front := by
  intro hmarks
  obtain @⟨opening, params, gap, body, hopens, hparams, hgap, hbody⟩ := hfront
  have hfirst : ')' ∉ opening ++ '(' :: params := by
    rw [List.mem_append, List.mem_cons, not_or, not_or]
    exact ⟨hopening opening hopens, by decide, hparams⟩
  have hbrace : '{' ∉ gap := fun h => absurd (hgap '{' h) (by decide)
  have htext : opening ++ '(' :: (params ++ ')' :: (gap ++ '{' :: body)) =
      (opening ++ '(' :: params) ++ ')' :: (gap ++ '{' :: body) := by simp
  rw [htext] at hmarks
  have hbehind : ['{', '}'].Sublist (gap ++ '{' :: body) := (sublist_of_append hfirst hmarks).tail
  have hinside : ['}'].Sublist body := (sublist_of_append hbrace hbehind).tail
  exact hbody (List.singleton_sublist.mp hinside)

theorem Unclosed.marks (hfront : Unclosed IsOpening definition front) (rest : List Char) :
    ('(' :: closingMarks).Sublist (front ++ '}' :: rest) := by
  obtain @⟨opening, params, gap, body, hopens, hparams, hgap, hbody⟩ := hfront
  have hbody' := cons_sublist_append (List.nil_sublist rest) '}' body
  have hgap' := cons_sublist_append hbody' '{' gap
  have hparams' := cons_sublist_append hgap' ')' params
  simpa [closingMarks] using cons_sublist_append hparams' '(' opening

/-- Where the marks stand behind an opening, the search has ended before the text behind. -/
theorem Finds.append (hfinds : Finds find? IsOpening)
    (hopening : ∀ opening, IsOpening opening → ')' ∉ opening)
    (hmarks : closingMarks.Sublist text) (more : List Char) :
    find? (text ++ more) = find? text := by
  apply Option.ext
  intro definition
  rw [hfinds, hfinds]
  constructor
  · rintro ⟨front, rest, hfront, htext⟩
    have hopen : ¬ closingMarks.Sublist front := hfront.not_closed hopening
    rcases List.append_eq_append_iff.mp htext with ⟨behind, rfl, -⟩ | ⟨behind, rfl, hbehind⟩
    · exact absurd (hmarks.trans (List.sublist_append_left text behind)) hopen
    · cases behind with
      | nil =>
          rw [List.append_nil] at hmarks
          exact absurd hmarks hopen
      | cons c behind =>
          obtain ⟨rfl, -⟩ := List.cons.inj hbehind
          exact ⟨front, behind, hfront, rfl⟩
  · rintro ⟨front, rest, hfront, rfl⟩
    exact ⟨front, rest ++ more, hfront, by simp⟩

theorem Finds.marks (hfinds : Finds find? IsOpening) (hfound : find? text = some definition) :
    ('(' :: closingMarks).Sublist text := by
  obtain ⟨front, rest, hfront, rfl⟩ := (hfinds _ _).mp hfound
  exact hfront.marks rest

end

section

variable {name text : List Char} {definition : Definition} (hname : IsName name)

include hname

theorem IsDeclaredOpening.close_not_mem {opening : List Char}
    (hopening : IsDeclaredOpening name opening) : ')' ∉ opening :=
  fun h => absurd (hopening.isPlain hname ')' h) (by decide)

theorem IsAssignedOpening.close_not_mem {opening : List Char}
    (hopening : IsAssignedOpening name opening) : ')' ∉ opening := by
  obtain ⟨gap, gap', gap'', hgap, hgap', hgap'', rfl⟩ := hopening
  exact fun h => absurd (isPlain_of_assigned hname hgap hgap' hgap'' ')' h) (by decide)

theorem declared?_append (hmarks : closingMarks.Sublist text) (more : List Char) :
    declared? name (text ++ more) = declared? name text :=
  (declared?_finds hname).append (fun _ => IsDeclaredOpening.close_not_mem hname) hmarks more

theorem assigned?_append (hmarks : closingMarks.Sublist text) (more : List Char) :
    assigned? name (text ++ more) = assigned? name text :=
  (assigned?_finds name).append (fun _ => IsAssignedOpening.close_not_mem hname) hmarks more

theorem definitionAt?_append (hmarks : ('(' :: closingMarks).Sublist text) (more : List Char) :
    definitionAt? name (text ++ more) = definitionAt? name text := by
  have hdeclared := declared?_append hname (List.sublist_of_cons_sublist hmarks) more
  cases text with
  | nil => cases hmarks
  | cons c rest =>
      rw [List.cons_append] at hdeclared ⊢
      have hclosing : closingMarks.Sublist rest := hmarks.tail
      have hassigned := assigned?_append hname hclosing more
      rw [definitionAt?_cons, definitionAt?_cons, hdeclared, hassigned]

theorem definitionAt?_marks (hfound : definitionAt? name text = some definition) :
    ('(' :: closingMarks).Sublist text := by
  rcases (Option.orElse_eq_some _ _ _).mp hfound with hdeclared | ⟨-, hassigned⟩
  · exact (declared?_finds hname).marks hdeclared
  · cases text with
    | nil => cases hassigned
    | cons c rest =>
        dsimp only at hassigned
        split at hassigned
        · cases hassigned
        · exact ((assigned?_finds name).marks hassigned).cons c

theorem laterDefinition?_marks (hfound : laterDefinition? name text = some definition) :
    ('(' :: closingMarks).Sublist text := by
  induction text with
  | nil => exact definitionAt?_marks hname hfound
  | cons c rest ih =>
      rcases (Option.orElse_eq_some _ _ _).mp hfound with hhere | ⟨-, hlater⟩
      · exact definitionAt?_marks hname hhere
      · exact (ih hlater).cons c

theorem laterDefinition?_found_append (hfound : laterDefinition? name text = some definition)
    (more : List Char) : laterDefinition? name (text ++ more) = some definition := by
  induction text with
  | nil => cases definitionAt?_marks hname hfound
  | cons c rest ih =>
      have hhere := definitionAt?_append hname (laterDefinition?_marks hname hfound) more
      rw [List.cons_append] at hhere ⊢
      rw [laterDefinition?] at hfound ⊢
      rw [hhere]
      cases hdefinition : definitionAt? name (c :: rest) with
      | some found => rwa [hdefinition] at hfound
      | none =>
          rw [hdefinition] at hfound
          exact ih hfound

end

/-- The leftmost definition in a script is the leftmost one however the script goes on. -/
theorem findDefinition?_append {script name : String} {definition : Definition}
    (hfound : findDefinition? script name = some definition) (more : String) :
    findDefinition? (script ++ more) name = some definition := by
  unfold findDefinition? at hfound ⊢
  split at hfound
  next hidentifier =>
    have hname : IsName name.toList := isIdentifier_eq_true.mp hidentifier
    have hmarks : ('(' :: closingMarks).Sublist script.toList := by
      rcases (Option.orElse_eq_some _ _ _).mp hfound with hdeclared | ⟨-, hbehind⟩
      · exact (declared?_finds hname).marks hdeclared
      · rcases (Option.orElse_eq_some _ _ _).mp hbehind with hassigned | ⟨-, hlater⟩
        · exact (assigned?_finds name.toList).marks hassigned
        · exact laterDefinition?_marks hname hlater
    have hclosing : closingMarks.Sublist script.toList := List.sublist_of_cons_sublist hmarks
    rw [if_pos hidentifier, String.toList_append]
    dsimp only at hfound ⊢
    rw [declared?_append hname hclosing, assigned?_append hname hclosing]
    cases hdeclared : declared? name.toList script.toList with
    | some found => rwa [hdeclared] at hfound
    | none =>
        rw [hdeclared] at hfound
        cases hassigned : assigned? name.toList script.toList with
        | some found => rwa [hassigned] at hfound
        | none =>
            rw [hassigned] at hfound
            exact laterDefinition?_found_append hname hfound more.toList
  next => cases hfound

theorem loadFunction_append {script name : String}
    (hfound : loadFunction script name ≠ .error (.functionNotFound name)) (more : String) :
    loadFunction (script ++ more) name = loadFunction script name := by
  cases hdefinition : findDefinition? script name with
  | none => exact absurd (by rw [loadFunction, hdefinition]) hfound
  | some definition =>
      rw [loadFunction, loadFunction, hdefinition, findDefinition?_append hdefinition more]

/-! ## Runs over a longer script -/

/-- Runs over a script and over one that goes on behind it.  Missing a function ends the
comparison. -/
def withMore (script more : String) : Comparison where
  programs p q := FaithfulTo script p ∧ FaithfulTo (script ++ more) q
  cut e := ∃ missing, e = .functionNotFound missing
  same := Eq
  same_refl _ := rfl

theorem program_relates_withMore (script more name : String) :
    (withMore script more).Relates (withMore script more).programs (program script name)
      (program (script ++ more) name) := by
  rintro p q ⟨hp, hq⟩
  obtain ⟨hresult, hafter⟩ := hp.program name
  obtain ⟨hresult', hafter'⟩ := hq.program name
  by_cases hfound : loadFunction script name = .error (.functionNotFound name)
  · exact .inl ⟨_, hresult.trans hfound, name, rfl⟩
  · refine .inr ⟨?_, hafter, hafter'⟩
    rw [hresult, hresult', loadFunction_append hfound more]
    exact Comparison.Alike.refl _

namespace Interpreter

/-- What stands behind a script has no influence on what the functions in front of it
compute.  The leftmost definition of a name counts, whatever follows, and so a result
that does not come from a missing function, be it a text or an error, is the same over
the longer script. -/
theorem decipher_with_text_behind (script name scrambled : String) (limit : Nat)
    (hfound : ∀ missing,
      ((fresh script limit).decipher name scrambled).1 ≠ .error (.functionNotFound missing))
    (more : String) :
    ((fresh (script ++ more) limit).decipher name scrambled).1 =
      ((fresh script limit).decipher name scrambled).1 := by
  have hcalls : (callWithin script limit limit).Relates (withMore script more)
      (callWithin (script ++ more) limit limit) :=
    callWithin_relates (program_relates_withMore script more) limit limit
  rcases hcalls name [.str scrambled] Dictionary.empty Dictionary.empty
    ⟨faithfulTo_empty script, faithfulTo_empty (script ++ more)⟩ with
    ⟨e, herror, missing, rfl⟩ | ⟨halike, -⟩
  · exact absurd (congrArg (·.bind Value.toResult) herror) (hfound missing)
  · have hcall := halike.eq fun _ _ hsame => hsame
    exact congrArg (·.bind Value.toResult) hcall.symm

/-- The script breaks off in the header of a second definition, and what follows goes on
with it and defines both functions anew. -/
theorem decipher_of_broken_off :
    let script := "function f(a)\x7breturn g(a)\x7dg=function(a)\x7breturn a\x7d;function g("
    let more := "b)\x7breturn 1\x7d;function f(b)\x7breturn 2\x7d"
    (∀ missing, ((fresh script 2).decipher "f" "x").1 ≠ .error (.functionNotFound missing)) ∧
      ((fresh (script ++ more) 2).decipher "f" "x").1 = .ok "x" := by
  intro script more
  have hresult : ((fresh script 2).decipher "f" "x").1 = .ok "x" := by decide +kernel
  have hfound : ∀ missing,
      ((fresh script 2).decipher "f" "x").1 ≠ .error (.functionNotFound missing) := by
    simp [hresult]
  exact ⟨hfound, (decipher_with_text_behind script "f" "x" 2 hfound more).trans hresult⟩

end Interpreter

end StreamLinks.Cipher
