import Mathlib.Data.List.Nodup
import StreamLinks.Proofs.Cipher.Cache
import StreamLinks.Proofs.Cipher.Definitions

/-!
# Scripts that consist of definitions

A script of definitions between semicolons defines exactly these functions.  Each of them
is found under its name, in whichever form and at whichever place it is written, also when
its name is part of other names or stands in other bodies.
-/

namespace StreamLinks.Cipher

def assignment (name params body : String) : String :=
  name ++ "=function(" ++ params ++ ")\x7b" ++ body ++ "\x7d"

def Form.source (form : Form) (name params body : String) : String :=
  match form with
  | .declared => declaration name params body
  | .assigned => assignment name params body
  | .initialized => "var " ++ assignment name params body

/-- A function and a definition whose parameters and body are read as this function. -/
structure WrittenFunction where
  form : Form
  name : String
  params : String
  body : String
  function : Function
  isFree : isFreeName name = true
  reads : parseFunction name params body = .ok function

namespace WrittenFunction

def source (written : WrittenFunction) : String :=
  written.form.source written.name written.params written.body

def definition (written : WrittenFunction) : Definition :=
  ⟨written.params, written.body⟩

end WrittenFunction

/-- The script of the definitions, with semicolons between them. -/
def scriptOf (functions : List WrittenFunction) : String :=
  ";".intercalate (functions.map WrittenFunction.source)

namespace WrittenFunction

variable (written : WrittenFunction)

theorem isName : IsName written.name.toList :=
  isIdentifier_eq_true.mp (isFreeName_eq_true.mp written.isFree).1

theorem isContent : IsContent written.params.toList written.body.toList :=
  isContent_of_parseFunction written.reads

theorem toList_source : written.source.toList =
    written.form.text written.name.toList written.params.toList written.body.toList ++ ['}'] := by
  have hassignment : ∀ name params body : String, (assignment name params body).toList =
      assignmentText name.toList params.toList body.toList ++ ['}'] := by
    intro name params body
    unfold assignment assignmentText
    simp
  unfold source Form.source
  cases written.form with
  | declared => exact toList_declaration _ _ _
  | assigned =>
      rw [Form.text_of_ne_declared (by decide)]
      exact hassignment _ _ _
  | initialized =>
      rw [Form.text_of_ne_declared (by decide), String.toList_append, hassignment]
      rfl

end WrittenFunction

/-! ## What is found in a script -/

section

variable {functions : List WrittenFunction} {name : String}

/-- The definitions with a semicolon in front of each. -/
def sourcesOf (functions : List WrittenFunction) : List Char :=
  functions.flatMap fun written => ';' :: written.source.toList

theorem semicolon_scriptOf (hne : functions ≠ []) :
    ';' :: (scriptOf functions).toList = sourcesOf functions := by
  have htexts : (functions.map WrittenFunction.source).map String.toList ≠ [] := by
    simpa using hne
  have hsemicolon : ";".toList = [';'] := by decide +kernel
  rw [scriptOf, sourcesOf, String.toList_intercalate, hsemicolon,
    Text.cons_intercalate htexts, List.map_map, List.flatMap_map]
  rfl

theorem not_opens_sourcesOf (hname : IsName name.toList) (functions : List WrittenFunction) :
    ¬ Opens name.toList (sourcesOf functions) := by
  cases functions with
  | nil => exact not_opens_nil
  | cons written rest =>
      exact not_opens_cons hname isSeparator_semicolon.not_plain isSeparator_semicolon.ne_paren

theorem laterDefinition?_nil (name : List Char) : laterDefinition? name [] = none := by
  apply definitionAt?_eq_none
  · exact fun hopens => not_opens_nil (.inl hopens)
  · intro c rest htext
    cases htext

theorem laterDefinition?_sourcesOf (hname : IsName name.toList)
    (functions : List WrittenFunction) :
    laterDefinition? name.toList (sourcesOf functions) =
      (functions.find? fun written => written.name == name).map WrittenFunction.definition := by
  induction functions with
  | nil => exact laterDefinition?_nil _
  | cons written rest ih =>
      have hsplit : sourcesOf (written :: rest) =
          ';' :: written.form.text written.name.toList written.params.toList written.body.toList ++
            '}' :: sourcesOf rest := by
        unfold sourcesOf
        rw [List.flatMap_cons, written.toList_source]
        simp
      rw [hsplit, List.find?_cons]
      by_cases hown : written.name = name
      · subst hown
        rw [laterDefinition?_of_own isSeparator_semicolon hname _ written.isContent]
        simp [WrittenFunction.definition]
      · have hne : name.toList ≠ written.name.toList :=
          fun h => hown (String.toList_inj.mp h).symm
        rw [laterDefinition?_of_other isSeparator_semicolon hname written.isName hne
            written.isContent,
          laterDefinition?_separator isSeparator_brace hname,
          assigned?_eq_none fun hopens => not_opens_sourcesOf hname rest (.inr hopens), ih,
          beq_eq_false_iff_ne.mpr hown]
        rfl

theorem findDefinition?_scriptOf (hname : isIdentifier name = true)
    (functions : List WrittenFunction) :
    findDefinition? (scriptOf functions) name =
      (functions.find? fun written => written.name == name).map WrittenFunction.definition := by
  have hisName := isIdentifier_eq_true.mp hname
  rw [findDefinition?_eq_later isSeparator_semicolon hname]
  by_cases hne : functions = []
  · subst hne
    have hassigned : assigned? name.toList [] = none :=
      assigned?_eq_none fun hopens => not_opens_nil (.inr hopens)
    have hempty : (scriptOf []).toList = [] := by decide +kernel
    rw [hempty, laterDefinition?_separator isSeparator_semicolon hisName, hassigned,
      laterDefinition?_nil]
    rfl
  · rw [semicolon_scriptOf hne, laterDefinition?_sourcesOf hisName]

/-- A script of definitions defines for each name the function that the first definition of
the name writes. -/
theorem loadFunction_scriptOf (hname : isIdentifier name = true)
    (functions : List WrittenFunction) :
    loadFunction (scriptOf functions) name =
      ((functions.find? fun written => written.name == name).map
        WrittenFunction.function).elim (.error (.functionNotFound name)) .ok := by
  rw [loadFunction, findDefinition?_scriptOf hname]
  cases hfound : functions.find? fun written => written.name == name with
  | none => rfl
  | some written =>
      have hsame : written.name = name := by
        simpa using List.find?_some hfound
      rw [← hsame]
      simp [WrittenFunction.definition, written.reads, Except.mapError]

theorem find?_of_distinct (hdistinct : (functions.map WrittenFunction.name).Nodup)
    {written : WrittenFunction} (hmem : written ∈ functions) :
    functions.find? (fun other => other.name == written.name) = some written := by
  have hsome : (functions.find? fun other => other.name == written.name).isSome = true := by
    rw [List.find?_isSome]
    exact ⟨written, hmem, beq_self_eq_true _⟩
  obtain ⟨found, hfound⟩ := Option.isSome_iff_exists.mp hsome
  have hname : found.name = written.name := by
    simpa using List.find?_some hfound
  have hsame := List.inj_on_of_nodup_map hdistinct (List.mem_of_find?_eq_some hfound) hmem hname
  rw [hfound, hsame]

end

namespace Interpreter

theorem Serves.program_eq {interpreter : Interpreter} {script : String} {limit : Nat}
    (hserves : interpreter.Serves script limit) (name : String) :
    (interpreter.program name).1 = loadFunction script name := by
  unfold program
  rw [hserves.script_eq]
  exact (hserves.faithful.program name).1

/-- Whatever an interpreter of a script of definitions with distinct names has been asked, it
finds each of the functions as it is written, and no other one. -/
theorem programs_of_definitions (functions : List WrittenFunction)
    (hdistinct : (functions.map WrittenFunction.name).Nodup) (limit : Nat)
    (requests : List Request) :
    let reached := ((fresh (scriptOf functions) limit).performAll requests).2
    (∀ written ∈ functions, (reached.program written.name).1 = .ok written.function) ∧
      ∀ name, isFreeName name = true → name ∉ functions.map WrittenFunction.name →
        (reached.program name).1 = .error (.functionNotFound name) := by
  intro reached
  have hstart := fresh_serves (scriptOf functions) limit
  have hreached : reached.Serves (scriptOf functions) limit :=
    (performAll_agrees requests hstart hstart).2
  constructor
  · intro written hmem
    have hname := (isFreeName_eq_true.mp written.isFree).1
    rw [hreached.program_eq, loadFunction_scriptOf hname, find?_of_distinct hdistinct hmem]
    rfl
  · intro name hfree hother
    have hnone : (functions.find? fun written => written.name == name) = none := by
      rw [List.find?_eq_none]
      intro written hmem hsame
      exact hother (List.mem_map.mpr ⟨written, hmem, beq_iff_eq.mp hsame⟩)
    rw [hreached.program_eq, loadFunction_scriptOf (isFreeName_eq_true.mp hfree).1, hnone]
    rfl

def dollar : WrittenFunction :=
  ⟨.assigned, "$", "a", "$=a;return $",
    ⟨"$", ["a"], [.assign "$" (.variable "a"), .ret (.variable "$")]⟩,
    by decide +kernel, by decide +kernel⟩

def functionDollar : WrittenFunction :=
  ⟨.initialized, "function$", " a , $ ", "var x=$(a)",
    ⟨"function$", ["a", "$"], [.assign "x" (.call "$" [.variable "a"])]⟩,
    by decide +kernel, by decide +kernel⟩

def varDollar : WrittenFunction :=
  ⟨.declared, "var$", "", "return function$(var$)",
    ⟨"var$", [], [.ret (.call "function$" [.variable "var$"])]⟩,
    by decide +kernel, by decide +kernel⟩

/-- The name of one function ends the names of the others and stands in their bodies. -/
theorem programs_of_dollars :
    let reached := fresh (scriptOf [functionDollar, varDollar, dollar]) 50
    (reached.program "$").1 = .ok dollar.function ∧
      (reached.program "x").1 = .error (.functionNotFound "x") := by
  intro reached
  have hdistinct : ([functionDollar, varDollar, dollar].map WrittenFunction.name).Nodup := by
    decide +kernel
  have hdollar : dollar ∈ [functionDollar, varDollar, dollar] := by simp
  have hother : "x" ∉ [functionDollar, varDollar, dollar].map WrittenFunction.name := by
    decide +kernel
  obtain ⟨hfound, hmissing⟩ := programs_of_definitions _ hdistinct 50 []
  exact ⟨hfound dollar hdollar, hmissing "x" (by decide +kernel) hother⟩

end Interpreter

end StreamLinks.Cipher
