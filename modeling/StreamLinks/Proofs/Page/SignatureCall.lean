import StreamLinks.Proofs.Cipher.MissingFunctions
import StreamLinks.Proofs.Page.Search

/-!
# The call that names the signature function

The function that unscrambles signatures is the one that a player script calls where it sets a
signature or hands one over.  Its name starts as identifiers do, but goes on with word
characters of any script, so it is an identifier only if it keeps to ASCII.  A name that is no
identifier is never found, even where the script defines it; any other is missing only if the
script does not define it.
-/

namespace StreamLinks.Page

open Text (IsGap IsRun)

/-- The name of something that is called: it starts as an identifier, and word characters of
any script and dollar signs may follow. -/
structure IsCallName (name : List Char) : Prop where
  start : ∃ c tail, name = c :: tail ∧ Cipher.isWordStart c = true
  parts : ∀ c ∈ name.tail, (Text.isWord c || c == '$') = true

/-- The text starts with a call of the function. -/
def StartsCall (text : List Char) (name : String) : Prop :=
  ∃ gap rest, IsCallName name.toList ∧ IsGap gap ∧ text = name.toList ++ gap ++ '(' :: rest

/-- The text behind `front` starts with a call whose result is set as a signature, or handed
over as one. -/
inductive StartsSignature (front : List Char) (name : String) : (text : List Char) → Prop
  | set {gap gap' call : List Char}
      (hfront : ∀ c, front.getLast? = some c → Text.isWord c = false)
      (hgap : IsGap gap) (hgap' : IsGap gap') (hcall : StartsCall call name) :
      StartsSignature front name ("signature".toList ++ (gap ++ '=' :: (gap' ++ call)))
  | handedOver {gap gap' call : List Char} (hgap : IsGap gap) (hgap' : IsGap gap')
      (hcall : StartsCall call name) :
      StartsSignature front name ("\"signature\"".toList ++ (gap ++ ',' :: (gap' ++ call)))

/-- The function is the one that is called at the first such place of the script. -/
def IsFirstSignature (script : List Char) (name : String) : Prop :=
  ∃ front text, script = front ++ text ∧ StartsSignature front name text ∧
    ∀ front' text', script = front' ++ text' → front'.length < front.length →
      ∀ other, ¬ StartsSignature front' other text'

variable {text front : List Char} {name : String}

/-! ## Names and white space -/

theorem isNamePart_of_isSpace {c : Char} (hc : Text.isSpace c = true) :
    (Text.isWord c || c == '$') = false := by
  have hdollar : c ≠ '$' := by
    rintro rfl
    exact absurd hc (by decide)
  simp [Text.isWord_of_isSpace hc, hdollar]

theorem isSpace_of_isWordStart {c : Char} (hc : Cipher.isWordStart c = true) :
    Text.isSpace c = false :=
  Cipher.isSpace_of_isWordPart (Cipher.isWordPart_of_isWordStart hc)

/-! ## Calls -/

theorem StartsCall.not_space (hcall : StartsCall text name) (c : Char) (hc : text.head? = some c) :
    Text.isSpace c = false := by
  obtain ⟨gap, rest, ⟨⟨d, tail, hname, hstart⟩, -⟩, -, rfl⟩ := hcall
  rw [hname] at hc
  cases hc
  exact isSpace_of_isWordStart hstart

/-- A name ends in front of white space and in front of a parenthesis. -/
theorem isRun_of_call {tail gap : List Char} (htail : ∀ c ∈ tail, (Text.isWord c || c == '$') = true)
    (hgap : IsGap gap) (rest : List Char) :
    IsRun (fun c => Text.isWord c || c == '$') tail (gap ++ '(' :: rest) := by
  cases gap with
  | nil => exact .of_next htail (by decide) rest
  | cons c gap => exact .of_next htail (isNamePart_of_isSpace (hgap c List.mem_cons_self)) _

theorem calledName?_eq_some : calledName? text = some name ↔ StartsCall text name := by
  constructor
  · intro hcalled
    unfold calledName? at hcalled
    split at hcalled
    next => cases hcalled
    next c rest =>
      split_ifs at hcalled with hstart
      obtain ⟨behind, hbehind, hname⟩ := Option.map_eq_some_iff.mp hcalled
      obtain ⟨gap, hgap, hrest⟩ :=
        isGap_skipped (rest.dropWhile fun c => Text.isWord c || c == '$')
      rw [Text.after?_eq_some.mp hbehind] at hrest
      obtain rfl := hname
      refine ⟨gap, behind, ⟨⟨c, _, String.toList_ofList, hstart⟩, ?_⟩, hgap, ?_⟩
      · rw [String.toList_ofList]
        exact List.all_eq_true.mp List.all_takeWhile
      · rw [String.toList_ofList, List.append_assoc, List.cons_append]
        rw [List.singleton_append] at hrest
        rw [← hrest, List.takeWhile_append_dropWhile]
  · rintro ⟨gap, rest, ⟨⟨c, tail, hname, hstart⟩, hparts⟩, hgap, rfl⟩
    rw [hname, List.tail_cons] at hparts
    have hrun := isRun_of_call hparts hgap rest
    have hskip : skipSpace (gap ++ '(' :: rest) = '(' :: rest :=
      skipSpace_append hgap (Text.stops_of_cons (by decide) rest)
    have hparen : Text.after? ['('] ('(' :: rest) = some rest := Text.after?_eq_some.mpr rfl
    rw [hname, List.append_assoc, List.cons_append, calledName?, if_pos hstart]
    dsimp only
    rw [hrun.dropWhile_eq, hrun.takeWhile_eq, hskip, hparen, Option.map_some, ← hname,
      String.ofList_toList]

/-! ## Places where a signature is set or handed over -/

/-- Behind the word a mark and a call follow. -/
theorem callBehind_eq_some {word : List Char} {mark : Char} (hmark : Text.isSpace mark = false) :
    ((Text.after? word text).bind fun behind => (afterMark? mark behind).bind calledName?) =
        some name ↔
      ∃ gap gap' call, IsGap gap ∧ IsGap gap' ∧ StartsCall call name ∧
        text = word ++ (gap ++ mark :: (gap' ++ call)) := by
  simp only [Option.bind_eq_some_iff, Text.after?_eq_some, afterMark?_eq_some hmark,
    calledName?_eq_some]
  constructor
  · rintro ⟨behind, rfl, call, ⟨gap, gap', hgap, hgap', rfl, -⟩, hcall⟩
    exact ⟨gap, gap', call, hgap, hgap', hcall, rfl⟩
  · rintro ⟨gap, gap', call, hgap, hgap', hcall, rfl⟩
    exact ⟨_, rfl, call, ⟨gap, gap', hgap, hgap', rfl, hcall.not_space⟩, hcall⟩

theorem signatureCall?_eq (previous : Option Char) (text : List Char) :
    signatureCall? previous text =
      ((if previous.any Text.isWord then none
        else (Text.after? "signature".toList text).bind fun behind =>
          (afterMark? '=' behind).bind calledName?) <|>
        (Text.after? "\"signature\"".toList text).bind fun behind =>
          (afterMark? ',' behind).bind calledName?) := by
  unfold signatureCall?
  cases previous.any Text.isWord <;> rfl

theorem signatureCall?_eq_some :
    signatureCall? front.getLast? text = some name ↔ StartsSignature front name text := by
  have hword : front.getLast?.any Text.isWord = false ↔
      ∀ c, front.getLast? = some c → Text.isWord c = false := by
    cases front.getLast? <;> simp
  rw [signatureCall?_eq]
  constructor
  · intro hfound
    rcases (Option.orElse_eq_some _ _ _).mp hfound with hset | ⟨-, hhanded⟩
    · split_ifs at hset with hprevious
      obtain ⟨gap, gap', call, hgap, hgap', hcall, rfl⟩ := (callBehind_eq_some (by decide)).mp hset
      exact .set (hword.mp (Bool.eq_false_iff.mpr hprevious)) hgap hgap' hcall
    · obtain ⟨gap, gap', call, hgap, hgap', hcall, rfl⟩ :=
        (callBehind_eq_some (by decide)).mp hhanded
      exact .handedOver hgap hgap' hcall
  · intro hstarts
    rw [Option.orElse_eq_some]
    cases hstarts with
    | @set gap gap' call hfront hgap hgap' hcall =>
        rw [hword.mpr hfront, if_neg Bool.false_ne_true]
        exact .inl ((callBehind_eq_some (by decide)).mpr ⟨gap, gap', call, hgap, hgap', hcall, rfl⟩)
    | @handedOver gap gap' call hgap hgap' hcall =>
        have hquote : ∀ rest, Text.after? "signature".toList ("\"signature\"".toList ++ rest) =
            none := by
          have hset : "signature".toList = 's' :: "ignature".toList := by decide +kernel
          have hhanded : "\"signature\"".toList = '"' :: "signature\"".toList := by decide +kernel
          intro rest
          rw [hset, hhanded]
          exact if_neg (by decide)
        refine .inr ⟨by rw [hquote]; split <;> rfl, ?_⟩
        exact (callBehind_eq_some (by decide)).mpr ⟨gap, gap', call, hgap, hgap', hcall, rfl⟩

theorem StartsSignature.ne_nil (hstarts : StartsSignature front name text) : text ≠ [] := by
  cases hstarts with
  | set hfront hgap hgap' hcall => simp
  | handedOver hgap hgap' hcall => simp

/-- The search behind `front` stops at the first place where a signature is set or handed
over. -/
theorem firstSignatureCall?_eq_some :
    firstSignatureCall? front.getLast? text = some name ↔
      ∃ more place, text = more ++ place ∧ StartsSignature (front ++ more) name place ∧
        ∀ more' place', text = more' ++ place' → more'.length < more.length →
          ∀ other, ¬ StartsSignature (front ++ more') other place' := by
  -- What was passed grows with each character, as its last one decides what may start behind it.
  induction text generalizing front with
  | nil =>
      constructor
      · rintro ⟨⟩
      · rintro ⟨more, place, htext, hstarts, -⟩
        exact (hstarts.ne_nil (List.append_eq_nil_iff.mp htext.symm).2).elim
  | cons c text ih =>
      have hbehind := @ih (front ++ [c])
      rw [List.getLast?_concat] at hbehind
      rw [firstSignatureCall?, Option.orElse_eq_some, hbehind]
      constructor
      · rintro (hhere | ⟨hnone, more, place, rfl, hstarts, hfirst⟩)
        · refine ⟨[], c :: text, rfl, ?_, by simp⟩
          rw [List.append_nil]
          exact signatureCall?_eq_some.mp hhere
        · refine ⟨c :: more, place, rfl, by rwa [List.append_cons], ?_⟩
          intro more' place' htext hlength other hother
          cases more' with
          | nil =>
              rw [List.nil_append] at htext
              rw [List.append_nil, ← htext, ← signatureCall?_eq_some, hnone] at hother
              cases hother
          | cons d more' =>
              obtain ⟨rfl, hrest⟩ := List.cons.inj htext
              rw [List.append_cons] at hother
              exact hfirst more' place' hrest (Nat.lt_of_succ_lt_succ hlength) other hother
      · rintro ⟨more, place, htext, hstarts, hfirst⟩
        cases more with
        | nil =>
            rw [List.nil_append] at htext
            rw [List.append_nil, ← htext] at hstarts
            exact .inl (signatureCall?_eq_some.mpr hstarts)
        | cons d more =>
            obtain ⟨rfl, hrest⟩ := List.cons.inj htext
            rw [List.append_cons] at hstarts
            refine .inr ⟨?_, more, place, hrest, hstarts, ?_⟩
            · refine Option.eq_none_iff_forall_ne_some.mpr fun other hother => ?_
              refine hfirst [] _ rfl (Nat.succ_pos _) other ?_
              rw [List.append_nil]
              exact signatureCall?_eq_some.mp hother
            · intro more' place' htext' hlength other hother
              rw [← List.append_cons] at hother
              exact hfirst (c :: more') place' (by rw [htext', List.cons_append])
                (Nat.succ_lt_succ hlength) other hother

theorem signatureFunction?_eq_some {script : String} :
    signatureFunction? script = some name ↔ IsFirstSignature script.toList name :=
  @firstSignatureCall?_eq_some script.toList [] name

/-! ## Looking the function up -/

theorem isWordPart_of_isNamePart {c : Char} (hpart : (Text.isWord c || c == '$') = true)
    (hc : c.toNat < 0x80) : Cipher.isWordPart c = true := by
  have hword : Text.isWord c = (c.isAlphanum || c == '_') := if_pos hc
  rwa [hword] at hpart

/-- A name that is called is an identifier if all of its characters are of ASCII. -/
theorem IsCallName.isIdentifier_iff (hname : IsCallName name.toList) :
    Cipher.isIdentifier name = true ↔ ∀ c ∈ name.toList, c.toNat < 0x80 := by
  obtain ⟨⟨first, tail, hchars, hstart⟩, hparts⟩ := hname
  rw [Cipher.isIdentifier_eq_true]
  rw [hchars] at hparts ⊢
  constructor
  · intro hidentifier c hc
    have hrange := (Cipher.isWordPart_range (hidentifier.parts c hc)).2
    omega
  · intro hascii
    refine ⟨⟨first, tail, rfl, hstart⟩, ?_⟩
    rw [List.forall_mem_cons] at hascii ⊢
    exact ⟨Cipher.isWordPart_of_isWordStart hstart,
      fun c hc => isWordPart_of_isNamePart (hparts c hc) (hascii.2 c hc)⟩

theorem StartsSignature.isCallName (hstarts : StartsSignature front name text) :
    IsCallName name.toList := by
  cases hstarts with
  | set hfront hgap hgap' hcall => exact hcall.choose_spec.choose_spec.1
  | handedOver hgap hgap' hcall => exact hcall.choose_spec.choose_spec.1

section

open Cipher Cipher.Interpreter

/-- The function that is located is the callee at the first place where a signature is set or
handed over, and its name is an identifier exactly if it is ASCII.  Whatever an interpreter for
the script was asked before: if a function is missing while a text is deciphered, it is the one
asked for or has a name that functions can have, and the script has no definition of it unless
its name is no identifier.  A function whose name is no identifier is always missing, and so is
one that the script does not define. -/
theorem located_functions_are_looked_up (script name : String) :
    (signatureFunction? script = some name ↔ IsFirstSignature script.toList name) ∧
    (signatureFunction? script = some name →
      (isIdentifier name = true ↔ ∀ c ∈ name.toList, c.toNat < 0x80)) ∧
    ∀ (limit : Nat) (requests : List Cipher.Request) (scrambled : String),
      let result := (((fresh script limit).performAll requests).2.decipher name scrambled).1
      (∀ missing, result = .error (.functionNotFound missing) →
        (missing = name ∨ isFreeName missing = true) ∧
          (isIdentifier missing = false ∨ ¬ Defines missing.toList script.toList)) ∧
      (0 < limit → isIdentifier name = false ∨ ¬ Defines name.toList script.toList →
        result = .error (.functionNotFound name)) := by
  refine ⟨signatureFunction?_eq_some, ?_, ?_⟩
  · intro hlocated
    obtain ⟨front, text, -, hstarts, -⟩ := signatureFunction?_eq_some.mp hlocated
    exact hstarts.isCallName.isIdentifier_iff
  · intro limit requests scrambled result
    have hserves :=
      (performAll_agrees requests (fresh_serves script limit) (fresh_serves script limit)).2
    constructor
    · intro missing hmissing
      obtain ⟨hnone, hname⟩ := hserves.decipher_accounts hmissing missing rfl
      exact ⟨hname, findDefinition?_eq_none_iff.mp hnone⟩
    · intro hlimit hnone
      exact hserves.decipher_of_none hlimit (findDefinition?_eq_none_iff.mpr hnone) scrambled

/-- The function is located and defined, and calls one that is not. -/
theorem missing_helper_is_not_defined :
    let script := "e.signature=b(e.s);function b(a)\x7breturn c(a)\x7d"
    IsFirstSignature script.toList "b" ∧ isIdentifier "b" = true ∧
      ((fresh script 50).decipher "b" "x").1 = .error (.functionNotFound "c") ∧
      ¬ Defines "c".toList script.toList ∧
      ((fresh script 50).decipher "é" "x").1 = .error (.functionNotFound "é") := by
  intro script
  have hlocated : signatureFunction? script = some "b" := by decide +kernel
  have hresult : ((fresh script 50).decipher "b" "x").1 = .error (.functionNotFound "c") := by
    decide +kernel
  obtain ⟨hplace, hname, hlookup⟩ := located_functions_are_looked_up script "b"
  have hidentifier : isIdentifier "b" = true := (hname hlocated).mpr (by simp)
  have hmissing := ((hlookup 50 [] "x").1 "c" hresult).2
  have hother : isIdentifier "c" ≠ false := by decide
  have haccent : isIdentifier "é" = false := by decide
  have hforeign := ((located_functions_are_looked_up script "é").2.2 50 [] "x").2 (by decide)
    (.inl haccent)
  exact ⟨hplace.mp hlocated, hidentifier, hresult, hmissing.resolve_left hother, hforeign⟩

/-- A located name with an accent is no identifier, and is not found where the script defines
it; and a located name may be a word that names no function. -/
theorem located_names_need_not_be_identifiers :
    let script := "e.signature=fé(e.s);function fé(a)\x7breturn a\x7d"
    (signatureFunction? script = some "fé" ∧ isIdentifier "fé" = false ∧
      Defines "fé".toList script.toList ∧
      ((fresh script 50).decipher "fé" "x").1 = .error (.functionNotFound "fé")) ∧
    signatureFunction? "e.signature=function(a)\x7breturn a\x7d(e.s)" = some "function" ∧
      "function" ∈ reservedWords := by
  intro script
  have hopening : IsDeclaredOpening "fé".toList "function fé".toList :=
    ⟨[' '], [], by decide, Text.isGap_space, Text.isGap_nil, by decide +kernel⟩
  have hinner : Unclosed (IsDeclaredOpening "fé".toList)
      ⟨String.ofList "a".toList, String.ofList "return a".toList⟩
      ("function fé".toList ++ '(' :: ("a".toList ++ ')' :: ([] ++ '{' :: "return a".toList))) :=
    .intro hopening (by decide +kernel) Text.isGap_nil (by decide +kernel)
  have hscript : script.toList = "e.signature=fé(e.s);".toList ++
      (("function fé".toList ++ '(' :: ("a".toList ++ ')' :: ([] ++ '{' :: "return a".toList))) ++
        '}' :: []) := by
    decide +kernel
  have hdefines : Defines "fé".toList script.toList := hscript ▸ .declared hinner
  exact ⟨⟨by decide +kernel, by decide +kernel, hdefines, by decide +kernel⟩, by decide +kernel,
    by decide +kernel⟩

end

end StreamLinks.Page
