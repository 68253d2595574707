import StreamLinks.Proofs.Cipher.Extension
import StreamLinks.Proofs.Cipher.Failures

/-!
# Functions that are not found

A function is missing for one of two reasons: the script has no definition of its name, or the
name is none that a definition is looked for.  What a body calls stands in it as a word, so
the second reason concerns only the function that is asked for from outside.
-/

namespace StreamLinks.Cipher

/-! ## Names of called functions -/

/-- The name stands among the tokens, and is not reserved. -/
def IsWordAmong (tokens : List Token) (name : String) : Prop :=
  .word name ∈ tokens ∧ name ∉ reservedWords

theorem IsWordAmong.mono {tokens others : List Token} {name : String}
    (hword : IsWordAmong tokens name) (hsubset : tokens ⊆ others) : IsWordAmong others name :=
  ⟨hsubset hword.1, hword.2⟩

mutual

theorem WritesExpr.callee_mem {brackets : Nat} {tokens : List Token} {expr : Expr} :
    WritesExpr brackets tokens expr → ∀ callee ∈ expr.callees, IsWordAmong tokens callee
  | .chain hchain _ => hchain.callee_mem

theorem WritesChain.callee_mem {brackets operators : Nat} {tokens : List Token}
    {expr : Expr} :
    WritesChain brackets operators tokens expr →
      ∀ callee ∈ expr.callees, IsWordAmong tokens callee
  | .operand hoperand => hoperand.callee_mem
  | .modulo hleft hright => by
      intro callee hcallee
      rw [Expr.callees, List.mem_append] at hcallee
      rcases hcallee with hcallee | hcallee
      · exact (hleft.callee_mem callee hcallee).mono fun _ h => by simp [h]
      · exact (hright.callee_mem callee hcallee).mono fun _ h => by simp [h]

theorem WritesOperand.callee_mem {brackets : Nat} {tokens : List Token} {expr : Expr} :
    WritesOperand brackets tokens expr → ∀ callee ∈ expr.callees, IsWordAmong tokens callee
  | .literal _ => by simp [Expr.callees]
  | .name _ => by simp [Expr.callees]
  | .split _ => by simp [Expr.callees]
  | .reverse _ => by simp [Expr.callees]
  | .join _ => by simp [Expr.callees]
  | .length _ => by simp [Expr.callees]
  | .slice _ hstart => fun callee hcallee =>
      (hstart.callee_mem callee hcallee).mono fun _ h => by simp [h]
  | .index _ hposition => fun callee hcallee =>
      (hposition.callee_mem callee hcallee).mono fun _ h => by simp [h]
  | .call hfunction _ => by
      intro callee hcallee
      rw [List.mem_singleton.mp hcallee]
      exact ⟨by simp, hfunction⟩

end

theorem WritesStatement.callee_mem {tokens : List Token} {statement : Statement}
    (hstatement : WritesStatement tokens statement) :
    ∀ callee ∈ statement.callees, IsWordAmong tokens callee := by
  cases hstatement with
  | ret hvalue =>
      exact fun callee hcallee => (hvalue.callee_mem callee hcallee).mono fun _ h => by simp [h]
  | assign hkeyword htarget hvalue =>
      exact fun callee hcallee => (hvalue.callee_mem callee hcallee).mono fun _ h => by simp [h]
  | assignAt hkeyword htarget hposition hvalue =>
      intro callee hcallee
      rw [Statement.callees, List.mem_append] at hcallee
      rcases hcallee with hcallee | hcallee
      · exact (hvalue.callee_mem callee hcallee).mono fun _ h => by simp [h]
      · exact (hposition.callee_mem callee hcallee).mono fun _ h => by simp [h]

theorem exists_statement_of_callee {body : List Statement} {callee : String}
    (hcallee : callee ∈ bodyCallees body) : ∃ statement ∈ body, callee ∈ statement.callees := by
  induction body with
  | nil => cases hcallee
  | cons statement rest ih =>
      rw [bodyCallees, List.mem_append] at hcallee
      rcases hcallee with hhere | hlater
      · exact ⟨statement, List.mem_cons_self, hhere⟩
      · split at hlater
        · cases hlater
        · obtain ⟨other, hother, hmem⟩ := ih hlater
          exact ⟨other, List.mem_cons_of_mem statement hother, hmem⟩

theorem WritesBody.callee_mem {tokens : List Token} {statements : List Statement}
    (hbody : WritesBody tokens statements) {callee : String}
    (hcallee : callee ∈ bodyCallees statements) : IsWordAmong tokens callee := by
  obtain ⟨statement, hstatement, hmem⟩ := exists_statement_of_callee hcallee
  obtain ⟨piece, hpiece, hwrites⟩ := Text.exists_of_forall₂ hbody.flip hstatement
  refine (hwrites.callee_mem callee hmem).mono fun token htoken => ?_
  exact (Text.exists_piece_iff.mp ⟨piece, List.mem_of_mem_filter hpiece, htoken⟩).1

/-- A function that a body calls has a name that functions can have. -/
theorem isFreeName_of_callee {script name callee : String} {function : Function}
    (hload : loadFunction script name = .ok function)
    (hcallee : callee ∈ bodyCallees function.body) : isFreeName callee = true := by
  obtain ⟨definition, _, hparse⟩ := loadFunction_eq_ok.mp hload
  obtain ⟨_, _, hbody⟩ := parseFunction_eq_ok.mp hparse
  obtain ⟨tokens, hlexes, hwrites⟩ := parseBody_eq_ok.mp hbody
  obtain ⟨hword, hfree⟩ := hwrites.callee_mem hcallee
  exact isFreeName_eq_true.mpr ⟨isIdentifier_eq_true.mpr (hlexes.isWritten _ hword), hfree⟩

/-! ## Definitions in a script -/

/-- The script has a definition of the name, wherever that stands. -/
inductive Defines (name : List Char) : (script : List Char) → Prop
  | declared {front inner rest : List Char} {definition : Definition}
      (hinner : Unclosed (IsDeclaredOpening name) definition inner) :
      Defines name (front ++ (inner ++ '}' :: rest))
  | assigned {front inner rest : List Char} {definition : Definition}
      (hfront : ∀ c, front.getLast? = some c → joinsName c = false)
      (hinner : Unclosed (IsAssignedOpening name) definition inner) :
      Defines name (front ++ (inner ++ '}' :: rest))

section

variable {name text : List Char}

theorem isSome_orElse {α : Type} (first second : Option α) :
    (first <|> second).isSome = true ↔ first.isSome = true ∨ second.isSome = true := by
  cases first <;> simp

theorem Finds.isSome_iff {find? : List Char → Option Definition} {IsOpening : List Char → Prop}
    (hfind : Finds find? IsOpening) :
    (find? text).isSome = true ↔
      ∃ definition inner rest, Unclosed IsOpening definition inner ∧
        text = inner ++ '}' :: rest := by
  rw [Option.isSome_iff_exists]
  exact exists_congr fun definition => hfind text definition

theorem definitionAt?_isSome {c : Char} {rest : List Char} :
    (definitionAt? name (c :: rest)).isSome = true ↔
      (declared? name (c :: rest)).isSome = true ∨
        joinsName c = false ∧ (assigned? name rest).isSome = true := by
  rw [definitionAt?_cons, isSome_orElse]
  cases joinsName c <;> simp

/-- A definition that starts at some place of a text is found. -/
theorem laterDefinition?_isSome :
    (laterDefinition? name text).isSome = true ↔
      ∃ front back, text = front ++ back ∧ (definitionAt? name back).isSome = true := by
  induction text with
  | nil =>
      constructor
      · exact fun hfound => ⟨[], [], rfl, hfound⟩
      · rintro ⟨front, back, htext, hfound⟩
        obtain ⟨-, rfl⟩ := List.append_eq_nil_iff.mp htext.symm
        exact hfound
  | cons c rest ih =>
      rw [laterDefinition?, isSome_orElse, ih]
      constructor
      · rintro (hhere | ⟨front, back, rfl, hfound⟩)
        · exact ⟨[], c :: rest, rfl, hhere⟩
        · exact ⟨c :: front, back, rfl, hfound⟩
      · rintro ⟨front, back, htext, hfound⟩
        cases front with
        | nil =>
            rw [List.nil_append] at htext
            exact .inl (htext ▸ hfound)
        | cons d front => exact .inr ⟨front, back, (List.cons.inj htext).2, hfound⟩

theorem Defines.of_definitionAt? {front : List Char} (hname : IsName name)
    (hfound : (definitionAt? name text).isSome = true) : Defines name (front ++ text) := by
  cases text with
  | nil => cases hfound
  | cons c rest =>
      rcases definitionAt?_isSome.mp hfound with hdeclared | ⟨hjoins, hassigned⟩
      · obtain ⟨definition, inner, behind, hinner, htext⟩ :=
          (declared?_finds hname).isSome_iff.mp hdeclared
        rw [htext]
        exact .declared hinner
      · obtain ⟨definition, inner, behind, hinner, rfl⟩ :=
          (assigned?_finds name).isSome_iff.mp hassigned
        rw [List.append_cons]
        refine .assigned ?_ hinner
        intro d hd
        rw [List.getLast?_concat, Option.some.injEq] at hd
        rwa [← hd]

/-- A search finds a definition of a name exactly if the script has one. -/
theorem findDefinition?_isSome {script name : String} (hname : isIdentifier name = true) :
    (findDefinition? script name).isSome = true ↔ Defines name.toList script.toList := by
  have hchars := isIdentifier_eq_true.mp hname
  rw [findDefinition?, if_pos hname, isSome_orElse, isSome_orElse]
  constructor
  · rintro (hdeclared | hassigned | hlater)
    · obtain ⟨definition, inner, rest, hinner, htext⟩ :=
        (declared?_finds hchars).isSome_iff.mp hdeclared
      rw [htext]
      exact @Defines.declared _ [] _ _ _ hinner
    · obtain ⟨definition, inner, rest, hinner, htext⟩ :=
        (assigned?_finds name.toList).isSome_iff.mp hassigned
      rw [htext]
      exact @Defines.assigned _ [] _ _ _ (by simp) hinner
    · obtain ⟨front, back, htext, hfound⟩ := laterDefinition?_isSome.mp hlater
      rw [htext]
      exact .of_definitionAt? hchars hfound
  · intro hdefines
    generalize script.toList = text at hdefines ⊢
    cases hdefines with
    | @declared front inner rest definition hinner =>
        have hfound : (declared? name.toList (inner ++ '}' :: rest)).isSome = true :=
          (declared?_finds hchars).isSome_iff.mpr ⟨definition, inner, rest, hinner, rfl⟩
        refine .inr (.inr (laterDefinition?_isSome.mpr ⟨front, _, rfl, ?_⟩))
        generalize inner ++ '}' :: rest = place at hfound ⊢
        cases place with
        | nil => exact (isSome_orElse _ _).mpr (.inl hfound)
        | cons c place => exact definitionAt?_isSome.mpr (.inl hfound)
    | @assigned front inner rest definition hfront hinner =>
        have hfound : (assigned? name.toList (inner ++ '}' :: rest)).isSome = true :=
          (assigned?_finds name.toList).isSome_iff.mpr ⟨definition, inner, rest, hinner, rfl⟩
        cases front using List.reverseRecOn with
        | nil => exact .inr (.inl hfound)
        | append_singleton front c =>
            have hjoins : joinsName c = false := hfront c (by simp)
            have hlater := definitionAt?_isSome.mpr (.inr ⟨hjoins, hfound⟩)
            rw [List.append_assoc, List.singleton_append]
            exact .inr (.inr (laterDefinition?_isSome.mpr ⟨front, _, rfl, hlater⟩))

theorem findDefinition?_eq_none_iff {script name : String} :
    findDefinition? script name = none ↔
      isIdentifier name = false ∨ ¬ Defines name.toList script.toList := by
  cases hname : isIdentifier name with
  | true => simp [← findDefinition?_isSome hname]
  | false => simp [findDefinition?, hname]

end

/-! ## Failures for want of a function -/

theorem loadFunction_eq_functionNotFound {script name missing : String}
    (hload : loadFunction script name = .error (.functionNotFound missing)) :
    missing = name ∧ findDefinition? script name = none := by
  unfold loadFunction at hload
  cases hfind : findDefinition? script name with
  | none =>
      rw [hfind] at hload
      cases hload
      exact ⟨rfl, rfl⟩
  | some definition =>
      rw [hfind] at hload
      obtain ⟨construct, -, hwrong⟩ := mapError_eq_error.mp hload
      cases hwrong

/-- The failure is none for want of a function, or the search for that function finds nothing;
and only the function that was asked for may have a name that is none. -/
def IsAccounted (script name : String) (e : Error) : Prop :=
  ∀ missing, e = .functionNotFound missing →
    findDefinition? script missing = none ∧ (missing = name ∨ isFreeName missing = true)

theorem callWithin_accounts (script : String) (limit frames : Nat) :
    (callWithin script limit frames).Shows script (fun _ => True) (IsAccounted script) := by
  refine @callWithin_shows script limit (fun _ _ => True) (fun _ => IsAccounted script)
    ?_ ?_ (fun _ _ _ _ _ => trivial) ?_ frames
  · rintro name missing ⟨⟩
  · rintro frames name e hload missing rfl
    obtain ⟨rfl, hnone⟩ := loadFunction_eq_functionNotFound hload
    exact ⟨hnone, .inl rfl⟩
  · rintro frames name function e hload (hown | ⟨callee, hmem, hblame⟩) missing rfl
    · exact hown.elim
    · obtain ⟨hnone, hname⟩ := hblame missing rfl
      refine ⟨hnone, .inr ?_⟩
      rcases hname with rfl | hfree
      · exact isFreeName_of_callee hload hmem
      · exact hfree

namespace Interpreter

variable {script : String} {limit : Nat} {interpreter : Interpreter}

theorem Serves.decipher_eq (hserves : interpreter.Serves script limit) (name scrambled : String) :
    (interpreter.decipher name scrambled).1 =
      (callWithin script limit limit name [.str scrambled] interpreter.programs).1.bind
        Value.toResult := by
  simp only [decipher, call, callAt, hserves.caller_eq]
  rfl

theorem Serves.decipher_accounts (hserves : interpreter.Serves script limit)
    {name scrambled : String} {e : Error}
    (he : (interpreter.decipher name scrambled).1 = .error e) : IsAccounted script name e := by
  rw [hserves.decipher_eq] at he
  rcases bind_eq_error.mp he with hcall | ⟨value, -, hresult⟩
  · exact (callWithin_accounts script limit limit name [.str scrambled] _ hserves.faithful).2.2 e
      hcall
  · rintro missing rfl
    exact (value.toResult_failsAlone _ hresult).elim

theorem Serves.decipher_of_none (hserves : interpreter.Serves script limit) (hlimit : 0 < limit)
    {name : String} (hnone : findDefinition? script name = none) (scrambled : String) :
    (interpreter.decipher name scrambled).1 = .error (.functionNotFound name) := by
  have hload : loadFunction script name = .error (.functionNotFound name) := by
    rw [loadFunction, hnone]
  obtain ⟨hprogram, -⟩ := hserves.faithful.program name
  rw [hserves.decipher_eq, ← Nat.succ_pred_eq_of_pos hlimit, Nat.succ_eq_add_one, callWithin_succ]
  rw [hload] at hprogram
  cases hfound : Cipher.program script name interpreter.programs with
  | mk result after =>
      rw [hfound] at hprogram
      obtain rfl : result = .error (.functionNotFound name) := hprogram
      rfl

end Interpreter

end StreamLinks.Cipher
