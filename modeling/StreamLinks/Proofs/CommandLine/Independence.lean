import StreamLinks.CommandLine.Run
import StreamLinks.Proofs.CommandLine.Words
import StreamLinks.Proofs.Resolution.Steady

/-!
# Identifiers on one command line

Over a steady network the identifiers of a command line have nothing to do with each other.  A run
leaves behind what the runs on each of them leave behind, one after the other, whatever becomes of
any of them.
-/

namespace StreamLinks.CommandLine

open Resolution

variable {network : Network} {settings : PlatformSettings} {arguments : Arguments}

/-! ## Outcomes -/

namespace Outcome

/-- The outcome is that of several runs one after the other.  It is a success exactly when each
of them is. -/
structure Joins (all : Outcome) (parts : List Outcome) : Prop where
  output : all.output = String.join (parts.map Outcome.output)
  errors : all.errors = String.join (parts.map Outcome.errors)
  requests : all.trace.requests = parts.flatMap fun part => part.trace.requests
  events : all.trace.events = parts.flatMap fun part => part.trace.events
  exitCode : all.exitCode = if ∀ part ∈ parts, part.exitCode = 0 then 0 else 1

theorem exitCode_ofReport {report : Report × Trace} :
    (ofReport report).exitCode = 0 ↔ report.1.success = true := by
  unfold ofReport
  cases report.1.success with
  | true => simp
  | false => simp

theorem Joins.cons {own later : Report × Trace} {parts : List Outcome}
    (hlater : (ofReport later).Joins parts) :
    (ofReport (own.1 ++ later.1, own.2 ++ later.2)).Joins (ofReport own :: parts) := by
  refine ⟨?_, ?_, ?_, ?_, ?_⟩
  · rw [List.map_cons, String.join_cons, ← hlater.output]
    rfl
  · rw [List.map_cons, String.join_cons, ← hlater.errors]
    exact String.join_append
  · rw [List.flatMap_cons, ← hlater.requests]
    rfl
  · rw [List.flatMap_cons, ← hlater.events]
    rfl
  · have hparts : (∀ part ∈ ofReport own :: parts, part.exitCode = 0) ↔
        own.1.success = true ∧ later.1.success = true := by
      rw [List.forall_mem_cons, exitCode_ofReport, ← @exitCode_ofReport later, hlater.exitCode]
      simp
    simp only [hparts]
    show (if (own.1.success && later.1.success) = true then 0 else 1) = _
    simp only [Bool.and_eq_true]

end Outcome

/-! ## One identifier -/

/-- The report on one identifier, with what is requested and told for it. -/
def reportAlone (settings : PlatformSettings) (network : Network) (arguments : Arguments)
    (input : String) : Report × Trace :=
  let (result, trace) := (resolveInput settings input).runFrom network Trace.empty
  (reportOn arguments input result, noteFailure input trace result)

theorem resolveInput_repeats (hsteady : network.IsSteady) (input : String) :
    Repeats network (resolveInput settings input) :=
  (Repeats.orFail _ _).bind fun _ => (Repeats.tell (by decide) _ _).bind fun _ =>
    resolve_repeats hsteady

theorem noteFailure_append (input : String) (before trace : Trace)
    (result : Except ResolveError (List StreamLink)) :
    noteFailure input (before ++ trace) result = before ++ noteFailure input trace result := by
  cases result with
  | ok links => rfl
  | error error =>
      ext1
      · rfl
      · exact List.append_assoc _ _ _

attribute [ext] Report

theorem Report.append_empty (report : Report) : report ++ Report.empty = report := by
  ext1
  · exact String.append_empty
  · exact List.append_nil _
  · exact Bool.and_true _

/-- The step of a run: what is left behind for the first identifier stands in front. -/
theorem reportFrom_cons (hsteady : network.IsSteady) (trace : Trace) (input : String)
    (inputs : List String) :
    reportFrom settings network arguments trace (input :: inputs) =
      let own := reportAlone settings network arguments input
      let later := reportFrom settings network arguments (trace ++ own.2) inputs
      (own.1 ++ later.1, later.2) := by
  have hrepeats : Repeats network (resolveInput settings input) :=
    resolveInput_repeats hsteady input
  simp only [reportFrom, hrepeats.runFrom_eq trace, noteFailure_append, reportAlone]

/-- Several reports one after the other, with what is requested and told for each. -/
def inTurn (reports : List (Report × Trace)) : Report × Trace :=
  reports.foldr (fun own later => (own.1 ++ later.1, own.2 ++ later.2)) (.empty, .empty)

/-- The run, by induction on the identifiers that are left. -/
theorem reportFrom_eq_inTurn (hsteady : network.IsSteady) (trace : Trace)
    (inputs : List String) :
    reportFrom settings network arguments trace inputs =
      let all := inTurn (inputs.map (reportAlone settings network arguments))
      (all.1, trace ++ all.2) := by
  induction inputs generalizing trace with
  | nil => exact Prod.ext rfl (Trace.append_empty trace).symm
  | cons input inputs ih =>
      rw [reportFrom_cons hsteady]
      dsimp only
      rw [ih]
      exact Prod.ext rfl (Trace.append_assoc ..)

theorem report_eq_inTurn (hsteady : network.IsSteady) :
    report settings network arguments =
      inTurn (arguments.identifiers.map (reportAlone settings network arguments)) := by
  unfold report
  rw [reportFrom_eq_inTurn hsteady]
  exact Prod.ext rfl (Trace.empty_append _)

end StreamLinks.CommandLine
