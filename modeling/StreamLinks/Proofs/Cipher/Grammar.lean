import Mathlib.Data.List.Chain
import StreamLinks.Cipher.Parser

/-!
# The grammar of statements

```text
statement := "return" expr | ["var"] name ["[" expr "]"] "=" expr
expr      := operand ("%" operand)*
operand   := number | name | name.split("") | name.reverse() | name.join("")
           | name.length | name.slice(expr) | name[expr] | name(args)
args      := [arg ("," arg)*]      arg := number | name
```

The grammar is stated here as relations between token sequences and trees,
without any reader in mind: a production is a constructor, and the tree of a
chain of `%` leans to the left because the production does.  No name is a
reserved word.  An expression knows how many brackets of its own statement part
enclose it, and together with its operators they stay within the nesting limit;
the bracket of an assignment target does not count.
-/

namespace StreamLinks.Cipher

/-- The token writes an argument of a call. -/
inductive WritesArg : Token → Arg → Prop
  | literal (value : Int64) : WritesArg (.number value) (.literal value)
  | name {name : String} (hname : name ∉ reservedWords) :
      WritesArg (.word name) (.variable name)

/-- The tokens write one or more arguments with commas between them. -/
inductive WritesArgsFrom : List Token → List Arg → Prop
  | last {token : Token} {arg : Arg} (harg : WritesArg token arg) :
      WritesArgsFrom [token] [arg]
  | more {token : Token} {arg : Arg} {tokens : List Token} {args : List Arg}
      (harg : WritesArg token arg) (hargs : WritesArgsFrom tokens args) :
      WritesArgsFrom (token :: .comma :: tokens) (arg :: args)

/-- The tokens write the arguments of a call, which may be none. -/
inductive WritesArgs : List Token → List Arg → Prop
  | none : WritesArgs [] []
  | some {tokens : List Token} {args : List Arg} (hargs : WritesArgsFrom tokens args) :
      WritesArgs tokens args

mutual

/-- The tokens write an expression that stands inside `brackets` brackets. -/
inductive WritesExpr : (brackets : Nat) → List Token → Expr → Prop
  | chain {brackets operators : Nat} {tokens : List Token} {expr : Expr}
      (hchain : WritesChain brackets operators tokens expr)
      (hnesting : brackets + 1 + operators ≤ maxNesting) :
      WritesExpr brackets tokens expr

/-- The tokens write operands with `operators` operators between them. -/
inductive WritesChain : (brackets operators : Nat) → List Token → Expr → Prop
  | operand {brackets : Nat} {tokens : List Token} {expr : Expr}
      (hoperand : WritesOperand brackets tokens expr) :
      WritesChain brackets 0 tokens expr
  | modulo {brackets operators : Nat} {left right : List Token} {dividend divisor : Expr}
      (hleft : WritesChain brackets operators left dividend)
      (hright : WritesOperand brackets right divisor) :
      WritesChain brackets (operators + 1) (left ++ .percent :: right)
        (.modulo dividend divisor)

/-- The tokens write one operand. -/
inductive WritesOperand : (brackets : Nat) → List Token → Expr → Prop
  | literal {brackets : Nat} (value : Int64) :
      WritesOperand brackets [.number value] (.literal value)
  | name {brackets : Nat} {name : String} (hname : name ∉ reservedWords) :
      WritesOperand brackets [.word name] (.variable name)
  | split {brackets : Nat} {object : String} (hobject : object ∉ reservedWords) :
      WritesOperand brackets
        [.word object, .dot, .word "split", .openParen, .text "", .closeParen]
        (.split object)
  | reverse {brackets : Nat} {object : String} (hobject : object ∉ reservedWords) :
      WritesOperand brackets
        [.word object, .dot, .word "reverse", .openParen, .closeParen]
        (.reverse object)
  | join {brackets : Nat} {object : String} (hobject : object ∉ reservedWords) :
      WritesOperand brackets
        [.word object, .dot, .word "join", .openParen, .text "", .closeParen]
        (.join object)
  | length {brackets : Nat} {object : String} (hobject : object ∉ reservedWords) :
      WritesOperand brackets [.word object, .dot, .word "length"] (.length object)
  | slice {brackets : Nat} {object : String} {tokens : List Token} {start : Expr}
      (hobject : object ∉ reservedWords)
      (hstart : WritesExpr (brackets + 1) tokens start) :
      WritesOperand brackets
        (.word object :: .dot :: .word "slice" :: .openParen :: tokens ++ [.closeParen])
        (.slice object start)
  | index {brackets : Nat} {object : String} {tokens : List Token} {position : Expr}
      (hobject : object ∉ reservedWords)
      (hposition : WritesExpr (brackets + 1) tokens position) :
      WritesOperand brackets (.word object :: .openBracket :: tokens ++ [.closeBracket])
        (.index object position)
  | call {brackets : Nat} {function : String} {tokens : List Token} {args : List Arg}
      (hfunction : function ∉ reservedWords) (hargs : WritesArgs tokens args) :
      WritesOperand brackets (.word function :: .openParen :: tokens ++ [.closeParen])
        (.call function args)

end

/-- The optional keyword in front of an assignment. -/
def IsDeclarator (keyword : List Token) : Prop :=
  keyword = [] ∨ keyword = [.word "var"]

/-- The tokens write a statement. -/
inductive WritesStatement : List Token → Statement → Prop
  | ret {tokens : List Token} {value : Expr} (hvalue : WritesExpr 0 tokens value) :
      WritesStatement (.word "return" :: tokens) (.ret value)
  | assign {keyword tokens : List Token} {target : String} {value : Expr}
      (hkeyword : IsDeclarator keyword) (htarget : target ∉ reservedWords)
      (hvalue : WritesExpr 0 tokens value) :
      WritesStatement (keyword ++ .word target :: .assign :: tokens) (.assign target value)
  | assignAt {keyword inner tokens : List Token} {target : String} {position value : Expr}
      (hkeyword : IsDeclarator keyword) (htarget : target ∉ reservedWords)
      (hposition : WritesExpr 0 inner position) (hvalue : WritesExpr 0 tokens value) :
      WritesStatement
        (keyword ++ .word target :: .openBracket :: inner ++
          .closeBracket :: .assign :: tokens)
        (.assignAt target position value)

/-! ## The tokens that can occur -/

/-- The tokens that an expression is made of.  The member names are not
reserved, so they need no mention of their own. -/
def IsExprToken : Token → Prop
  | .word name => name ∉ reservedWords
  | .text content => content = ""
  | .assign => False
  | .semicolon => False
  | _ => True

theorem WritesArg.isExprToken {token : Token} {arg : Arg} (harg : WritesArg token arg) :
    IsExprToken token := by
  cases harg with
  | literal value => trivial
  | name hname => exact hname

theorem WritesArgsFrom.isExprToken {tokens : List Token} {args : List Arg}
    (hargs : WritesArgsFrom tokens args) : ∀ token ∈ tokens, IsExprToken token := by
  induction hargs with
  | last harg => simpa using harg.isExprToken
  | more harg _ ih =>
      simp only [List.forall_mem_cons]
      exact ⟨harg.isExprToken, trivial, ih⟩

theorem WritesArgs.isExprToken {tokens : List Token} {args : List Arg}
    (hargs : WritesArgs tokens args) : ∀ token ∈ tokens, IsExprToken token := by
  cases hargs with
  | none => simp
  | some hargs => exact hargs.isExprToken

mutual

theorem WritesExpr.isExprToken {brackets : Nat} {tokens : List Token} {expr : Expr} :
    WritesExpr brackets tokens expr → ∀ token ∈ tokens, IsExprToken token
  | .chain hchain _ => hchain.isExprToken

theorem WritesChain.isExprToken {brackets operators : Nat} {tokens : List Token}
    {expr : Expr} :
    WritesChain brackets operators tokens expr → ∀ token ∈ tokens, IsExprToken token
  | .operand hoperand => hoperand.isExprToken
  | .modulo hleft hright => by
      have hl := hleft.isExprToken
      have hr := hright.isExprToken
      simp only [List.forall_mem_append, List.forall_mem_cons]
      exact ⟨hl, trivial, hr⟩

theorem WritesOperand.isExprToken {brackets : Nat} {tokens : List Token} {expr : Expr} :
    WritesOperand brackets tokens expr → ∀ token ∈ tokens, IsExprToken token
  | .literal _ => by simp [IsExprToken]
  | .name hname => by simpa [IsExprToken] using hname
  | .split hobject => by simpa [IsExprToken, reservedWords] using hobject
  | .reverse hobject => by simpa [IsExprToken, reservedWords] using hobject
  | .join hobject => by simpa [IsExprToken, reservedWords] using hobject
  | .length hobject => by simpa [IsExprToken, reservedWords] using hobject
  | .slice hobject hstart => by
      have hinner := hstart.isExprToken
      have hmember : IsExprToken (.word "slice") := by simp [IsExprToken, reservedWords]
      simp only [List.forall_mem_append, List.forall_mem_cons]
      exact ⟨⟨hobject, trivial, hmember, trivial, hinner⟩, trivial, by simp⟩
  | .index hobject hposition => by
      have hinner := hposition.isExprToken
      simp only [List.forall_mem_append, List.forall_mem_cons]
      exact ⟨⟨hobject, trivial, hinner⟩, trivial, by simp⟩
  | .call hfunction hargs => by
      have hinner := hargs.isExprToken
      simp only [List.forall_mem_append, List.forall_mem_cons]
      exact ⟨⟨hfunction, trivial, hinner⟩, trivial, by simp⟩

end

/-- The tokens that a statement is made of. -/
def IsStatementToken (token : Token) : Prop :=
  token = .word "return" ∨ token = .word "var" ∨ token = .assign ∨ IsExprToken token

theorem WritesStatement.isStatementToken {tokens : List Token} {statement : Statement}
    (hstatement : WritesStatement tokens statement) :
    ∀ token ∈ tokens, IsStatementToken token := by
  have hexpr : ∀ {inner : List Token} {expr : Expr}, WritesExpr 0 inner expr →
      ∀ token ∈ inner, IsStatementToken token := by
    intro inner expr hwrites token hmem
    exact .inr (.inr (.inr (hwrites.isExprToken token hmem)))
  have hdeclarator : ∀ {keyword : List Token}, IsDeclarator keyword →
      ∀ token ∈ keyword, IsStatementToken token := by
    rintro keyword (rfl | rfl) <;> simp [IsStatementToken]
  have hname : ∀ {name : String}, name ∉ reservedWords → IsStatementToken (.word name) := by
    intro name hfree
    exact .inr (.inr (.inr hfree))
  cases hstatement with
  | ret hvalue =>
      simp only [List.forall_mem_cons]
      exact ⟨.inl rfl, hexpr hvalue⟩
  | assign hkeyword htarget hvalue =>
      simp only [List.forall_mem_append, List.forall_mem_cons]
      exact ⟨hdeclarator hkeyword, hname htarget, by simp [IsStatementToken], hexpr hvalue⟩
  | assignAt hkeyword htarget hposition hvalue =>
      simp only [List.forall_mem_append, List.forall_mem_cons]
      exact ⟨⟨hdeclarator hkeyword, hname htarget, by simp [IsStatementToken, IsExprToken],
        hexpr hposition⟩, by simp [IsStatementToken, IsExprToken],
        by simp [IsStatementToken], hexpr hvalue⟩

theorem WritesStatement.semicolon_not_mem {tokens : List Token} {statement : Statement}
    (hstatement : WritesStatement tokens statement) : Token.semicolon ∉ tokens := by
  intro hmem
  have htoken := hstatement.isStatementToken _ hmem
  simp [IsStatementToken, IsExprToken] at htoken

/-! ## Words next to each other -/

/-- The token is written with word characters alone. -/
def Token.IsBare : Token → Prop
  | .word _ => True
  | .number _ => True
  | _ => False

instance : DecidablePred Token.IsBare
  | .word _ | .number _ => isTrue trivial
  | .text _ | .dot | .openParen | .closeParen | .openBracket | .closeBracket | .comma
  | .percent | .assign | .semicolon => isFalse not_false

/-- A sign stands between a word or number and the next one. -/
def Apart (left right : Token) : Prop :=
  ¬ (left.IsBare ∧ right.IsBare)

/-- When the two tokens are words, the first one is a keyword. -/
def MayMeet (left right : Token) : Prop :=
  ∀ name name', left = .word name → right = .word name' → name = "return" ∨ name = "var"

theorem Apart.mayMeet {left right : Token} (hapart : Apart left right) :
    MayMeet left right := by
  rintro name name' rfl rfl
  exact (hapart ⟨trivial, trivial⟩).elim

theorem WritesArgsFrom.isChain {tokens : List Token} {args : List Arg}
    (hargs : WritesArgsFrom tokens args) : tokens.IsChain Apart := by
  induction hargs with
  | last harg => simp
  | more harg hargs ih => simp [List.isChain_cons, Apart, Token.IsBare, ih]

theorem WritesArgs.isChain {tokens : List Token} {args : List Arg}
    (hargs : WritesArgs tokens args) : tokens.IsChain Apart := by
  cases hargs with
  | none => simp
  | some hargs => exact hargs.isChain

mutual

theorem WritesExpr.isChain {brackets : Nat} {tokens : List Token} {expr : Expr} :
    WritesExpr brackets tokens expr → tokens.IsChain Apart
  | .chain hchain _ => hchain.isChain

theorem WritesChain.isChain {brackets operators : Nat} {tokens : List Token} {expr : Expr} :
    WritesChain brackets operators tokens expr → tokens.IsChain Apart
  | .operand hoperand => hoperand.isChain
  | .modulo hleft hright => by
      have hl := hleft.isChain
      have hr := hright.isChain
      simp [List.isChain_append, List.isChain_cons, Apart, Token.IsBare, hl, hr]

theorem WritesOperand.isChain {brackets : Nat} {tokens : List Token} {expr : Expr} :
    WritesOperand brackets tokens expr → tokens.IsChain Apart
  | .literal _ => by simp
  | .name _ => by simp
  | .split _ => by simp [Apart, Token.IsBare]
  | .reverse _ => by simp [Apart, Token.IsBare]
  | .join _ => by simp [Apart, Token.IsBare]
  | .length _ => by simp [Apart, Token.IsBare]
  | .slice _ hstart => by
      have hinner := hstart.isChain
      simp [List.isChain_append, List.isChain_cons, Apart, Token.IsBare, hinner]
  | .index _ hposition => by
      have hinner := hposition.isChain
      simp [List.isChain_append, List.isChain_cons, Apart, Token.IsBare, hinner]
  | .call _ hargs => by
      have hinner := hargs.isChain
      simp [List.isChain_append, List.isChain_cons, Apart, Token.IsBare, hinner]

end

theorem WritesStatement.isChain {tokens : List Token} {statement : Statement}
    (hstatement : WritesStatement tokens statement) : tokens.IsChain MayMeet := by
  have hexpr : ∀ {inner : List Token} {expr : Expr}, WritesExpr 0 inner expr →
      inner.IsChain MayMeet := fun hwrites => hwrites.isChain.imp fun _ _ => Apart.mayMeet
  cases hstatement with
  | ret hvalue =>
      refine List.isChain_cons.mpr ⟨?_, hexpr hvalue⟩
      intro next _ name name' hname _
      exact .inl (Token.word.inj hname).symm
  | assign hkeyword htarget hvalue =>
      rcases hkeyword with rfl | rfl <;> simp [List.isChain_cons, MayMeet, hexpr hvalue]
  | assignAt hkeyword htarget hposition hvalue =>
      rcases hkeyword with rfl | rfl <;>
        simp [List.isChain_append, List.isChain_cons, MayMeet, hexpr hposition, hexpr hvalue]

end StreamLinks.Cipher
