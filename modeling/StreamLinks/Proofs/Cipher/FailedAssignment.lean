import StreamLinks.Proofs.Cipher.IndexedAssignment

/-!
# Indexed assignments that fail

An indexed assignment computes a place and a text before it looks at its target, and without
reversals this changes no variable.  After that it can fail for a negative place, for a target
that holds no sequence, and for a place from the limit on.  An unbound target is bound to the
empty sequence between the first and the last of these tests, and that binding is the only trace
a failed assignment can leave.
-/

namespace StreamLinks.Cipher

/-- The place and the text of an indexed assignment in a frame that has `depth` frames below
it. -/
def Interpreter.placeAndItem (interpreter : Interpreter) (position value : Expr)
    (env : Environment) (depth : Nat) : Except Error (Int64 × String) :=
  (interpreter.runFrame env (Cipher.placeAndItem (interpreter.caller (depth + 1)) position value)).1

/-- The assignment comes to an unbound target with a place that no sequence may grow to. -/
structure Interpreter.OpensInVain (interpreter : Interpreter) (target : String)
    (position value : Expr) (env : Environment) (depth : Nat) : Prop where
  unbound : env.get? target = none
  beyond : ∃ index item, interpreter.placeAndItem position value env depth = .ok (index, item) ∧
    (Value.maxGrownLength : Int) ≤ index.toInt

variable {call : Caller} {env env' : Environment} {target item : String} {position value : Expr}
  {index : Int64} {e : Error}

/-! ## Before the target -/

theorem spares_of_no_reversal {expr : Expr} (hexpr : expr.reversed = []) :
    Run.Spares [] (expr.evaluate call) := by
  have hother : ∀ object, expr ≠ .reverse object := by
    rintro object rfl
    exact List.cons_ne_nil object [] hexpr
  have hspares := expr.evaluate_spares call hother
  rwa [hexpr] at hspares

theorem placeAndItem_env (call : Caller) (hvalue : value.reversed = [])
    (hposition : position.reversed = []) (frame : Frame) :
    (placeAndItem call position value frame).2.env = frame.env := by
  have hspares : Run.Spares [] (placeAndItem call position value) := by
    refine (spares_of_no_reversal hvalue).bind fun v => ?_
    refine (spares_of_no_reversal hposition).bind fun u => ?_
    exact (Run.Spares.lift _).bind fun index => (Run.Spares.lift _).bind fun item => .pure _
  exact hspares.env_eq frame

/-! ## At the target -/

theorem put_ne_of_unbound (hunbound : env.get? target = none) (v : Value) :
    env.put target v ≠ env := by
  intro hsame
  have hbound : (env.put target v).get? target = some v := by
    rw [Dictionary.get?_put, if_pos rfl]
  rw [hsame, hunbound] at hbound
  cases hbound

theorem writeAt_error_of_bound {v : Value} (hbound : env.get? target = some v)
    (hfails : env.writeAt target index item = (.error e, env')) : env' = env := by
  have hopened := Environment.opened_of_bound hbound
  unfold Environment.writeAt at hfails
  rw [hopened, hbound] at hfails
  split at hfails
  · cases hfails
    rfl
  · split at hfails
    · split at hfails
      · cases hfails
        rfl
      · cases hfails
    · cases hfails
      rfl
    · cases hfails
      rfl

/-- A refused place from the limit on lets an unbound target be bound to the empty sequence, and
in all other cases a refusal changes nothing. -/
theorem writeAt_error_cases (hfails : env.writeAt target index item = (.error e, env')) :
    (¬ (env.get? target = none ∧ (Value.maxGrownLength : Int) ≤ index.toInt) ∧ env' = env) ∨
      (env.get? target = none ∧ (Value.maxGrownLength : Int) ≤ index.toInt ∧
        e = .indexOutOfRange index 0 ∧ env' = env.put target (.seq [])) := by
  cases hbound : env.get? target with
  | some v => exact .inl ⟨by simp, writeAt_error_of_bound hbound hfails⟩
  | none =>
      have htarget : env.StandsFor target [] := .inr ⟨hbound, rfl⟩
      by_cases hlimit : (Value.maxGrownLength : Int) ≤ index.toInt
      · rw [writeAt_of_limit htarget hlimit, Environment.opened_of_unbound hbound] at hfails
        cases hfails
        exact .inr ⟨rfl, hlimit, rfl, rfl⟩
      · have hnegative : index.toInt < 0 := by
          by_contra hnonneg
          rw [writeAt_of_room htarget (by omega) (by omega)] at hfails
          cases hfails
        rw [writeAt_of_negative hnegative] at hfails
        cases hfails
        exact .inl ⟨fun hopens => hlimit hopens.2, rfl⟩

/-! ## The whole statement -/

namespace Interpreter

variable {interpreter : Interpreter} {depth : Nat}

theorem exists_after_placeAndItem (hvalue : value.reversed = [])
    (hposition : position.reversed = []) (interpreter : Interpreter) (env : Environment)
    (depth : Nat) :
    ∃ programs, Cipher.placeAndItem (interpreter.caller (depth + 1)) position value
        ⟨env, interpreter.programs⟩ =
      (interpreter.placeAndItem position value env depth, ⟨env, programs⟩) := by
  have hsame := placeAndItem_env (interpreter.caller (depth + 1)) hvalue hposition
    ⟨env, interpreter.programs⟩
  rcases hfound : Cipher.placeAndItem (interpreter.caller (depth + 1)) position value
    ⟨env, interpreter.programs⟩ with ⟨result, after, programs⟩
  rw [hfound] at hsame
  refine ⟨programs, ?_⟩
  rw [placeAndItem, runFrame, hfound]
  exact congrArg (fun env => (result, Frame.mk env programs)) hsame

theorem execute_env_of_no_place (hvalue : value.reversed = []) (hposition : position.reversed = [])
    (hplace : interpreter.placeAndItem position value env depth = .error e) :
    (interpreter.execute (.assignAt target position value) env depth).2.1 = env := by
  obtain ⟨programs, hfound⟩ := exists_after_placeAndItem hvalue hposition interpreter env depth
  rw [hplace] at hfound
  rw [execute, runFrame, execute_assignAt_of_error hfound]

theorem execute_of_place (target : String) (hvalue : value.reversed = [])
    (hposition : position.reversed = [])
    (hplace : interpreter.placeAndItem position value env depth = .ok (index, item)) :
    let outcome := interpreter.execute (.assignAt target position value) env depth
    outcome.1 = (fun _ => none) <$> (env.writeAt target index item).1 ∧
      outcome.2.1 = (env.writeAt target index item).2 := by
  obtain ⟨programs, hfound⟩ := exists_after_placeAndItem hvalue hposition interpreter env depth
  rw [hplace] at hfound
  rw [execute, runFrame, execute_assignAt_of_ok hfound]
  exact ⟨rfl, rfl⟩

theorem execute_error_cases (hvalue : value.reversed = []) (hposition : position.reversed = [])
    (hfails : (interpreter.execute (.assignAt target position value) env depth).1 = .error e) :
    let after := (interpreter.execute (.assignAt target position value) env depth).2.1
    (¬ interpreter.OpensInVain target position value env depth ∧ after = env) ∨
      (interpreter.OpensInVain target position value env depth ∧
        (∃ index, (Value.maxGrownLength : Int) ≤ index.toInt ∧ e = .indexOutOfRange index 0) ∧
        after = env.put target (.seq [])) := by
  intro after
  cases hplace : interpreter.placeAndItem position value env depth with
  | error e' =>
      refine .inl ⟨?_, execute_env_of_no_place hvalue hposition hplace⟩
      rintro ⟨-, index, item, hfound, -⟩
      rw [hplace] at hfound
      cases hfound
  | ok found =>
      obtain ⟨index, item⟩ := found
      obtain ⟨hresult, hafter⟩ := execute_of_place target hvalue hposition hplace
      rw [hfails, eq_comm, map_eq_error] at hresult
      rcases writeAt_error_cases (Prod.ext hresult hafter.symm) with
        ⟨hbefore, hsame⟩ | ⟨hunbound, hlimit, herror, hput⟩
      · refine .inl ⟨?_, hsame⟩
        rintro ⟨hunbound, index', item', hfound, hlimit⟩
        rw [hplace] at hfound
        cases hfound
        exact hbefore ⟨hunbound, hlimit⟩
      · exact .inr ⟨⟨hunbound, index, item, hplace, hlimit⟩, ⟨index, hlimit, herror⟩, hput⟩

/-- An indexed assignment without reversals that fails leaves all variables as they were, except
where it comes to an unbound target with a place from the limit on.  Then the target is bound to
the empty sequence, and nothing else has changed. -/
theorem failed_assignment_changes {target : String} {position value : Expr} {env : Environment}
    {e : Error} (hvalue : value.reversed = []) (hposition : position.reversed = [])
    (hfails : (interpreter.execute (.assignAt target position value) env depth).1 = .error e) :
    let after := (interpreter.execute (.assignAt target position value) env depth).2.1
    (after = env ↔ ¬ interpreter.OpensInVain target position value env depth) ∧
      (interpreter.OpensInVain target position value env depth →
        after = env.put target (.seq []) ∧
          ∃ index, (Value.maxGrownLength : Int) ≤ index.toInt ∧ e = .indexOutOfRange index 0) := by
  intro after
  rcases execute_error_cases hvalue hposition hfails with
    ⟨hnever, hsame⟩ | ⟨hopens, herror, hput⟩
  · exact ⟨iff_of_true hsame hnever, fun hopens => absurd hopens hnever⟩
  · have hchanged : after ≠ env := fun hsame =>
      put_ne_of_unbound hopens.unbound (.seq []) (hput.symm.trans hsame)
    exact ⟨iff_of_false hchanged (not_not_intro hopens), fun _ => ⟨hput, herror⟩⟩

/-- A string is no target for a text in its first place, and stays what it is. -/
theorem failed_assignment_changes_of_string :
    let env : Environment := Dictionary.ofPairs [("t", .str "abc"), ("c", .str "x")]
    let outcome := Interpreter.execute { script := "" } (.assignAt "t" (.literal 0) (.variable "c"))
      env 0
    outcome.1 = .error (.typeMismatch .indexedAssignment [.sequence] .string) ∧
      outcome.2.1 = env := by
  intro env outcome
  have hfails : outcome.1 = .error (.typeMismatch .indexedAssignment [.sequence] .string) := rfl
  obtain ⟨hunchanged, -⟩ := @failed_assignment_changes { script := "" } 0 "t" (.literal 0)
    (.variable "c") env _ rfl rfl hfails
  refine ⟨hfails, hunchanged.mpr ?_⟩
  rintro ⟨hunbound, -⟩
  cases hunbound

/-- The place is refused, and yet the target is bound afterwards. -/
theorem refused_place_binds_target :
    let env : Environment := Dictionary.ofPairs [("c", .str "x")]
    let outcome := Interpreter.execute { script := "" }
      (.assignAt "t" (.literal 65536) (.variable "c")) env 0
    parseStatement "t[65536]=c" = .ok (.assignAt "t" (.literal 65536) (.variable "c")) ∧
      (Expr.literal 65536).reversed = [] ∧ (Expr.variable "c").reversed = [] ∧
      outcome.1 = .error (.indexOutOfRange 65536 0) ∧ env.get? "t" = none ∧
      outcome.2.1.get? "t" = some (.seq []) := by
  intro env outcome
  exact ⟨by decide +kernel, rfl, rfl, by decide +kernel, rfl, by decide +kernel⟩

end Interpreter

end StreamLinks.Cipher
