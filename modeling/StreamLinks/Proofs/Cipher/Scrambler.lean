import Mathlib.Logic.Equiv.Basic
import StreamLinks.Proofs.Cipher.Definitions

/-!
# Scrambler scripts

A scrambler splits its text into characters, applies steps to them and joins them
again.  A step reverses the characters, drops some at the front, or exchanges the
first one with another one; the exchange is a function of its own, which the
scrambler calls.  This file fixes the text of such scripts and what the steps do to
characters, and shows which functions are read from the text.
-/

namespace StreamLinks.Cipher

/-- One step of a scrambler, with any number that a script can write. -/
inductive ScrambleStep where
  | reverse
  | drop (count : Fin (2 ^ 63))
  | swap (position : Fin (2 ^ 63))

/-! ## What the steps do to characters -/

/-- The list with its first element and the one at `position` exchanged. -/
def exchange {α : Type} (items : List α) (position : Nat) : List α :=
  match items[0]?, items[position]? with
  | some first, some other => (items.set 0 other).set position first
  | _, _ => items

theorem exchange_length {α : Type} (items : List α) (position : Nat) :
    (exchange items position).length = items.length := by
  unfold exchange
  split <;> simp

/-- The characters after a step; there is nothing to exchange in an empty list. -/
def ScrambleStep.apply : ScrambleStep → List Char → Option (List Char)
  | .reverse, chars => some chars.reverse
  | .drop count, chars => some (chars.drop count.val)
  | .swap position, chars =>
      if chars = [] then none else some (exchange chars (position.val % chars.length))

/-- The characters after all steps. -/
def scramble (steps : List ScrambleStep) (chars : List Char) : Option (List Char) :=
  steps.foldlM (fun chars step => step.apply chars) chars

/-! ## The script -/

/-- The statement of one step. -/
def ScrambleStep.source (helper : String) : ScrambleStep → String
  | .reverse => "a=a.reverse();"
  | .drop count => "a=a.slice(" ++ toString count.val ++ ");"
  | .swap position => "a=" ++ helper ++ "(a," ++ toString position.val ++ ");"

/-- The body of the main function. -/
def scramblerBody (helper : String) (steps : List ScrambleStep) : String :=
  "a=a.split(\"\");" ++ (String.join (steps.map (ScrambleStep.source helper)) ++
    "return a.join(\"\")")

/-- The body of the function that exchanges two elements. -/
def swapperBody : String :=
  "var c=a[0];a[0]=a[b%a.length];a[b%a.length]=c;return a"

/-- The whole script: the main function, and behind it the one that it calls. -/
def scramblerScript (main helper : String) (steps : List ScrambleStep) : String :=
  declaration main "a" (scramblerBody helper steps) ++ declaration helper "a,b" swapperBody

/-! ## The functions -/

/-- The statement of one step as a tree. -/
def ScrambleStep.statement (helper : String) : ScrambleStep → Statement
  | .reverse => .assign "a" (.reverse "a")
  | .drop count => .assign "a" (.slice "a" (.literal (Int64.ofInt count.val)))
  | .swap position =>
      .assign "a" (.call helper [.variable "a", .literal (Int64.ofInt position.val)])

/-- The main function. -/
def scrambler (main helper : String) (steps : List ScrambleStep) : Function where
  name := main
  params := ["a"]
  body := .assign "a" (.split "a") ::
    (steps.map (ScrambleStep.statement helper) ++ [.ret (.join "a")])

/-- The function that exchanges two elements. -/
def swapper (helper : String) : Function where
  name := helper
  params := ["a", "b"]
  body := [
    .assign "c" (.index "a" (.literal 0)),
    .assignAt "a" (.literal 0) (.index "a" (.modulo (.variable "b") (.length "a"))),
    .assignAt "a" (.modulo (.variable "b") (.length "a")) (.variable "c"),
    .ret (.variable "a")]

theorem parseBody_swapperBody (helper : String) :
    parseBody swapperBody = .ok (swapper helper).body := by
  change parseBody swapperBody = .ok (swapper "").body
  decide +kernel

section

variable {main helper : String}

/-- The tokens of a step in front of its semicolon. -/
def ScrambleStep.tokens (helper : String) : ScrambleStep → List Token
  | .reverse => [.word "a", .assign, .word "a", .dot, .word "reverse", .openParen, .closeParen]
  | .drop count =>
      [.word "a", .assign, .word "a", .dot, .word "slice", .openParen,
        .number (Int64.ofInt count.val), .closeParen]
  | .swap position =>
      [.word "a", .assign, .word helper, .openParen, .word "a", .comma,
        .number (Int64.ofInt position.val), .closeParen]

theorem ScrambleStep.lexes (hhelper : isIdentifier helper = true) (step : ScrambleStep) :
    Lexes (step.source helper).toList (step.tokens helper ++ [.semicolon]) := by
  cases step with
  | reverse =>
      have hwhole : Lexes "a=a.reverse();".toList
          [.word "a", .assign, .word "a", .dot, .word "reverse", .openParen, .closeParen,
            .semicolon] := tokenize_eq_ok.mp (by decide +kernel)
      exact hwhole
  | drop count =>
      have hfront : Lexes "a=a.slice(".toList
          [.word "a", .assign, .word "a", .dot, .word "slice", .openParen] :=
        tokenize_eq_ok.mp (by decide +kernel)
      have hback : Lexes ");".toList [.closeParen, .semicolon] :=
        tokenize_eq_ok.mp (by decide +kernel)
      have hnumber := Lexes.of_toString count.isLt
      have hcall := hfront.append hnumber
        (@meet_of_last _ '(' (by decide +kernel) (by decide) (by decide) _)
      have hwhole := hcall.append hback
        (@meet_of_first _ ')' (by decide +kernel) (by decide) (by decide) _)
      rw [source, String.toList_append, String.toList_append]
      exact hwhole
  | swap position =>
      have hisName := isIdentifier_eq_true.mp hhelper
      obtain ⟨c, tail, hsplit, hstart⟩ := hisName.start
      have hname := Lexes.of_name hisName
      have hfront : Lexes "a=".toList [.word "a", .assign] :=
        tokenize_eq_ok.mp (by decide +kernel)
      have hargs : Lexes "(a,".toList [.openParen, .word "a", .comma] :=
        tokenize_eq_ok.mp (by decide +kernel)
      have hback : Lexes ");".toList [.closeParen, .semicolon] :=
        tokenize_eq_ok.mp (by decide +kernel)
      have hnumber := Lexes.of_toString position.isLt
      have htarget := hfront.append hname
        (@meet_of_word _ _ '=' c (by decide +kernel) (by rw [hsplit]; rfl) (by decide)
          (isWordPart_of_isWordStart hstart))
      have hopen := htarget.append hargs
        (@meet_of_first _ '(' (by decide +kernel) (by decide) (by decide) _)
      have hcomma : ("a=".toList ++ helper.toList ++ "(a,".toList).getLast? = some ',' := by
        have hlast : "(a,".toList.getLast? = some ',' := by decide +kernel
        rw [List.getLast?_append, hlast]
        rfl
      have hcall := hopen.append hnumber (meet_of_last hcomma (by decide) (by decide) _)
      have hwhole := hcall.append hback
        (@meet_of_first _ ')' (by decide +kernel) (by decide) (by decide) _)
      simp only [source, String.toList_append]
      exact hwhole

theorem ScrambleStep.writes (hhelper : helper ∉ reservedWords) (step : ScrambleStep) :
    WritesStatement (step.tokens helper) (step.statement helper) := by
  have ha : "a" ∉ reservedWords := by decide +kernel
  cases step with
  | reverse =>
      have hvalue : WritesExpr 0
          [.word "a", .dot, .word "reverse", .openParen, .closeParen] (.reverse "a") :=
        .chain (.operand (.reverse ha)) (by decide)
      exact .assign (.inl rfl) ha hvalue
  | drop count =>
      have hstart : WritesExpr 1 [.number (Int64.ofInt count.val)]
          (.literal (Int64.ofInt count.val)) := .chain (.operand (.literal _)) (by decide)
      have hvalue := WritesExpr.chain (.operand (.slice ha hstart)) (by decide)
      exact .assign (.inl rfl) ha hvalue
  | swap position =>
      have hargs : WritesArgs [.word "a", .comma, .number (Int64.ofInt position.val)]
          [.variable "a", .literal (Int64.ofInt position.val)] :=
        .some (.more (.name ha) (.last (.literal _)))
      have hvalue := @WritesExpr.chain 0 0 _ _ (.operand (.call hhelper hargs)) (by decide)
      exact .assign (.inl rfl) ha hvalue

theorem ScrambleStep.source_getLast? (step : ScrambleStep) (helper : String) :
    (step.source helper).toList.getLast? = some ';' := by
  have hback : ");".toList.getLast? = some ';' := by decide +kernel
  cases step with
  | reverse =>
      have hlast : "a=a.reverse();".toList.getLast? = some ';' := by decide +kernel
      exact hlast
  | drop count =>
      rw [source, String.toList_append, List.getLast?_append, hback]
      rfl
  | swap position =>
      rw [source, String.toList_append, List.getLast?_append, hback]
      rfl

theorem parseBody_scramblerBody (main : String) (hhelper : isFreeName helper = true)
    (steps : List ScrambleStep) :
    parseBody (scramblerBody helper steps) = .ok (scrambler main helper steps).body := by
  obtain ⟨hname, hfree⟩ := isFreeName_eq_true.mp hhelper
  have hend : parseBody "return a.join(\"\")" = .ok [.ret (.join "a")] := by decide +kernel
  have hsteps : parseBody (String.join (steps.map (ScrambleStep.source helper)) ++
      "return a.join(\"\")") =
        .ok (steps.map (ScrambleStep.statement helper) ++ [.ret (.join "a")]) := by
    induction steps with
    | nil => exact hend
    | cons step steps ih =>
        have hmeet := meet_of_last (step.source_getLast? helper) (by decide) (by decide)
        have hparse := parseBody_append (step.lexes hname) (step.writes hfree) (hmeet _) ih
        rw [List.map_cons, String.join_cons, String.append_assoc]
        exact hparse
  have hsplit : Lexes "a=a.split(\"\");".toList
      ([.word "a", .assign, .word "a", .dot, .word "split", .openParen, .text "", .closeParen] ++
        [.semicolon]) := tokenize_eq_ok.mp (by decide +kernel)
  have ha : "a" ∉ reservedWords := by decide +kernel
  have hvalue : WritesExpr 0
      [.word "a", .dot, .word "split", .openParen, .text "", .closeParen] (.split "a") :=
    .chain (.operand (.split ha)) (by decide)
  have hmeet := @meet_of_last "a=a.split(\"\");".toList ';' (by decide +kernel) (by decide)
    (by decide)
  exact parseBody_append hsplit (.assign (.inl rfl) ha hvalue) (hmeet _) hsteps

theorem scramblerScript_toList (main helper : String) (steps : List ScrambleStep) :
    (scramblerScript main helper steps).toList =
      declarationText main.toList "a".toList (scramblerBody helper steps).toList ++
        '}' :: (declarationText helper.toList "a,b".toList swapperBody.toList ++ '}' :: []) := by
  rw [scramblerScript, String.toList_append, toList_declaration, toList_declaration,
    List.append_assoc]
  rfl

theorem findDefinition?_scramblerScript {name : String} (hname : isIdentifier name = true)
    (main helper : String) (steps : List ScrambleStep) :
    findDefinition? (scramblerScript main helper steps) name =
      laterDefinition? name.toList
        (';' :: Form.declared.text main.toList "a".toList (scramblerBody helper steps).toList ++
          '}' :: (Form.declared.text helper.toList "a,b".toList swapperBody.toList ++
            '}' :: [])) := by
  rw [findDefinition?_eq_later isSeparator_semicolon hname, scramblerScript_toList]
  rfl

theorem parseFunction_main (main : String) (hhelper : isFreeName helper = true)
    (steps : List ScrambleStep) :
    parseFunction main "a" (scramblerBody helper steps) = .ok (scrambler main helper steps) := by
  have hparams : parseParams "a" = .ok ["a"] := by decide +kernel
  exact parseFunction_eq_ok.mpr ⟨rfl, hparams, parseBody_scramblerBody main hhelper steps⟩

theorem parseFunction_helper (helper : String) :
    parseFunction helper "a,b" swapperBody = .ok (swapper helper) := by
  have hparams : parseParams "a,b" = .ok ["a", "b"] := by decide +kernel
  exact parseFunction_eq_ok.mpr ⟨rfl, hparams, parseBody_swapperBody helper⟩

theorem loadFunction_main (hmain : isFreeName main = true) (hhelper : isFreeName helper = true)
    (steps : List ScrambleStep) :
    loadFunction (scramblerScript main helper steps) main = .ok (scrambler main helper steps) := by
  have hname := (isFreeName_eq_true.mp hmain).1
  have hisName := isIdentifier_eq_true.mp hname
  have hreads := parseFunction_main main hhelper steps
  have hfind := findDefinition?_scramblerScript hname main helper steps
  rw [laterDefinition?_of_own isSeparator_semicolon hisName .declared
    (isContent_of_parseFunction hreads)] at hfind
  exact loadFunction_eq_ok.mpr ⟨_, hfind, hreads⟩

theorem loadFunction_helper (hmain : isFreeName main = true) (hhelper : isFreeName helper = true)
    (hne : main ≠ helper) (steps : List ScrambleStep) :
    loadFunction (scramblerScript main helper steps) helper = .ok (swapper helper) := by
  have hname := (isFreeName_eq_true.mp hhelper).1
  have hisName := isIdentifier_eq_true.mp hname
  have hisMain := isIdentifier_eq_true.mp (isFreeName_eq_true.mp hmain).1
  have hne' : helper.toList ≠ main.toList := fun h => hne (String.toList_inj.mp h).symm
  have hmainContent := isContent_of_parseFunction (parseFunction_main main hhelper steps)
  have hreads := parseFunction_helper helper
  have hfind := findDefinition?_scramblerScript hname main helper steps
  rw [laterDefinition?_of_other isSeparator_semicolon hisName hisMain hne' hmainContent,
    ← List.cons_append, laterDefinition?_of_own isSeparator_brace hisName .declared
      (isContent_of_parseFunction hreads)] at hfind
  exact loadFunction_eq_ok.mpr ⟨_, hfind, hreads⟩

end

end StreamLinks.Cipher
