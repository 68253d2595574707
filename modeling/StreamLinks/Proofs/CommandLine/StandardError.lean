import StreamLinks.Proofs.CommandLine.Independence

/-!
# The standard error of a run

Log lines and reports come from two lists.  They meet again in the order in which they were
written: over a steady wire the standard error of a run is that of its identifiers one after the
other, and the report on a failure stands right behind the line that tells it.
-/

namespace StreamLinks.CommandLine

variable {lineOf : Log.Event → String} {events : List Log.Event} {reports : List String}

/-! ## Log lines and reports in turn -/

theorem join_map_silent (events : List Log.Event) :
    String.join (events.map fun _ => "") = "" := by
  induction events with
  | nil => rfl
  | cons event events ih => rw [List.map_cons, String.join_cons, ih, String.empty_append]

/-- Where no lines are shown only the reports are left. -/
theorem logAndReports_silent (events : List Log.Event) (reports : List String) :
    logAndReports (fun _ => "") events reports = String.join reports := by
  induction events generalizing reports with
  | nil => rfl
  | cons event events ih =>
      unfold logAndReports
      split
      · rw [ih, String.empty_append, ← String.join_append, List.take_append_drop]
      · rw [ih, String.empty_append]

/-- Without a log the standard error is that of the outcome; the usage is left to the program. -/
theorem Ending.errorText_silent {ending : Ending} (hread : ending ≠ .misused) :
    ending.errorText (fun _ _ => "") = (Outcome.ofEnding ending).errors := by
  cases ending with
  | answered text => rfl
  | misused => exact absurd rfl hread
  | refused error =>
      have herror : error.lines (fun _ _ => "") = "" := by
        cases error with
        | resolving error logging notes => exact join_map_silent notes
        | settingsUnreadable path error => rfl
        | settingsMalformed path => rfl
        | cookiesUnreadable path error => rfl
      simp only [Ending.errorText, herror, String.empty_append, Outcome.ofEnding]
  | reported logging notes report =>
      simp only [Ending.errorText, join_map_silent, String.empty_append, logAndReports_silent]
      rfl

/-- Events that tell no failure leave all reports to what comes behind them. -/
theorem logAndReports_calm_append (hcalm : ∀ event ∈ events, event.level ≠ .error)
    (later : List Log.Event) (reports : List String) :
    logAndReports lineOf (events ++ later) reports =
      String.join (events.map lineOf) ++ logAndReports lineOf later reports := by
  induction events with
  | nil => rw [List.nil_append, List.map_nil, String.join_nil, String.empty_append]
  | cons event events ih =>
      obtain ⟨hevent, hcalm⟩ := List.forall_mem_cons.1 hcalm
      rw [List.cons_append, logAndReports, if_neg hevent, ih hcalm, List.map_cons,
        String.join_cons, String.append_assoc]

/-- There is a report for each event that tells a failure. -/
def IsPaired (report : Report × Trace) : Prop :=
  report.2.events.countP (fun event => event.level = .error) = report.1.errors.length

/-- Where each failure has its report, nothing is left over for what comes behind. -/
theorem logAndReports_append
    (hpaired : events.countP (fun event => event.level = .error) = reports.length)
    (events' : List Log.Event) (reports' : List String) :
    logAndReports lineOf (events ++ events') (reports ++ reports') =
      logAndReports lineOf events reports ++ logAndReports lineOf events' reports' := by
  induction events generalizing reports with
  | nil =>
      obtain rfl := List.eq_nil_of_length_eq_zero hpaired.symm
      rw [List.nil_append, List.nil_append, logAndReports, String.join_nil, String.empty_append]
  | cons event events ih =>
      rw [List.cons_append, logAndReports, logAndReports]
      by_cases hevent : event.level = .error
      · rw [List.countP_cons_of_pos (by simpa using hevent)] at hpaired
        obtain ⟨report, reports, rfl⟩ := List.exists_cons_of_length_eq_add_one hpaired.symm
        rw [if_pos hevent, if_pos hevent]
        have hlater := ih (Nat.succ.inj hpaired)
        simp only [List.cons_append, List.take_succ_cons, List.take_zero, List.drop_succ_cons,
          List.drop_zero, hlater, String.append_assoc]
      · rw [List.countP_cons_of_neg (by simpa using hevent)] at hpaired
        rw [if_neg hevent, if_neg hevent, ih hpaired, String.append_assoc]

/-! ## The identifiers of a run -/

variable {network : Network} {settings : PlatformSettings} {arguments : Arguments}

theorem logAndReports_inTurn {own : String → Report × Trace}
    (hpaired : ∀ input, IsPaired (own input)) (inputs : List String) :
    logAndReports lineOf (inTurn (inputs.map own)).2.events (inTurn (inputs.map own)).1.errors =
      String.join (inputs.map fun input =>
        logAndReports lineOf (own input).2.events (own input).1.errors) := by
  induction inputs with
  | nil => rfl
  | cons input inputs ih =>
      have hevents : (inTurn ((input :: inputs).map own)).2.events =
          (own input).2.events ++ (inTurn (inputs.map own)).2.events := rfl
      have herrors : (inTurn ((input :: inputs).map own)).1.errors =
          (own input).1.errors ++ (inTurn (inputs.map own)).1.errors := rfl
      rw [hevents, herrors, logAndReports_append (hpaired input), ih, List.map_cons,
        String.join_cons]

/-- What resolving an identifier leaves on the standard error: the lines of what was told, and for
a failure its own line and the report behind that. -/
def errorTextOn (lineOf : Log.Event → String) (input : String) :
    Except ResolveError (List StreamLink) × Trace → String
  | (.ok _, told) => String.join (told.events.map lineOf)
  | (.error error, told) =>
      String.join (told.events.map lineOf)
        ++ (lineOf { level := .error
                     message := "Failed to resolve " ++ input ++ ": " ++ error.message }
          ++ (input ++ ": " ++ error.message ++ "\n"))

theorem isPaired_reportAlone (hsteady : network.IsSteady) (input : String) :
    IsPaired (reportAlone settings network arguments input) := by
  have hcalm := (@resolveInput_repeats network settings hsteady input).isCalm
  unfold reportAlone
  generalize (resolveInput settings input).runFrom network Trace.empty = run at hcalm ⊢
  obtain ⟨result, told⟩ := run
  have hnone : told.events.countP (fun event => event.level = .error) = 0 :=
    List.countP_eq_zero.2 fun event hevent => by simpa using hcalm event hevent
  cases result with
  | ok links => simp only [IsPaired, noteFailure, reportOn, hnone, List.length_nil]
  | error error => simp [IsPaired, noteFailure, reportOn, Report.failure, hnone]

theorem logAndReports_reportAlone (hsteady : network.IsSteady) (input : String) :
    logAndReports lineOf (reportAlone settings network arguments input).2.events
        (reportAlone settings network arguments input).1.errors =
      errorTextOn lineOf input ((resolveInput settings input).runFrom network Trace.empty) := by
  have hcalm := (@resolveInput_repeats network settings hsteady input).isCalm
  unfold reportAlone
  generalize (resolveInput settings input).runFrom network Trace.empty = run at hcalm ⊢
  obtain ⟨result, told⟩ := run
  cases result with
  | ok links =>
      have hlines := @logAndReports_calm_append lineOf _ hcalm [] []
      rw [List.append_nil, logAndReports, String.join_nil, String.append_empty] at hlines
      simpa only [noteFailure, reportOn, errorTextOn] using hlines
  | error error =>
      simp [noteFailure, reportOn, Report.failure, errorTextOn, logAndReports_calm_append hcalm,
        logAndReports, String.append_assoc]

/-- Over a steady wire the standard error of a run has the lines of what was noted at its start,
and then for one identifier after the other the lines of what was told while it was resolved,
behind which a failure is told in a line and reported. -/
theorem Ending.errorText_reported {wire : Wire} (hsteady : wire.IsSteady) (client : Client)
    (logging : LogSettings) (lineOf : LogSettings → Log.Event → String) :
    (Ending.reported logging client.notes
        (report settings (client.network wire) arguments)).errorText lineOf =
      String.join (client.notes.map (lineOf logging)) ++
        String.join (arguments.identifiers.map fun input =>
          errorTextOn (lineOf logging) input
            ((resolveInput settings input).runFrom (client.network wire) Trace.empty)) := by
  have hnetwork : (client.network wire).IsSteady := client.network_isSteady hsteady
  have hpaired := @isPaired_reportAlone (client.network wire) settings arguments hnetwork
  have hinTurn := @logAndReports_inTurn (lineOf logging) _ hpaired arguments.identifiers
  simp only [logAndReports_reportAlone hnetwork] at hinTurn
  rw [Ending.errorText, report_eq_inTurn hnetwork, hinTurn]

end StreamLinks.CommandLine
