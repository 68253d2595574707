import StreamLinks.Proofs.Cipher.Cache

/-!
# More room for calls

A run that is not cut off by the limit on open calls goes the same way wherever
there is at least as much room.  With equally much room two runs go the same way
to their end, and can only report different limits.
-/

namespace StreamLinks.Cipher

variable {α : Type}

/-- The failure without the number that a limit carries. -/
def Error.unnumbered : Error → Error
  | .recursionLimit _ => .recursionLimit 0
  | e => e

/-- The run ended because too many calls were open. -/
def CutOff (result : Except Error α) : Prop :=
  ∃ limit, result = .error (.recursionLimit limit)

/-- Runs of which the left one may be cut off. -/
def moreRoom (script : String) : Comparison :=
  { anyCache script with cut := fun e => ∃ limit, e = .recursionLimit limit }

/-- Runs that may report different limits. -/
def equalRoom (script : String) : Comparison :=
  { anyCache script with
    same := fun e e' => e.unnumbered = e'.unnumbered
    same_refl := fun _ => rfl }

theorem callWithin_relates_moreRoom (script : String) (limit limit' : Nat) {frames frames' : Nat}
    (hframes : frames ≤ frames') :
    (callWithin script limit frames).Relates (moreRoom script)
      (callWithin script limit' frames') := by
  induction frames generalizing frames' with
  | zero =>
      intro name args p q _
      exact .inl ⟨_, rfl, limit, rfl⟩
  | succ frames ih =>
      obtain ⟨more, rfl⟩ : ∃ more, frames' = more + 1 := ⟨frames' - 1, by omega⟩
      have hless : frames ≤ more := by omega
      exact callWithin_relates_succ (c := moreRoom script) (program_relates_of_faithful rfl)
        (ih hless)

theorem callWithin_relates_equalRoom (script : String) (limit limit' frames : Nat) :
    (callWithin script limit frames).Relates (equalRoom script)
      (callWithin script limit' frames) := by
  induction frames with
  | zero =>
      intro name args p q hprograms
      exact .inr ⟨rfl, hprograms⟩
  | succ frames ih =>
      exact callWithin_relates_succ (c := equalRoom script) (program_relates_of_faithful rfl) ih

/-! ## What related runs show -/

theorem moreRoom_alike {script : String} {tight roomy : Except Error α}
    (halike : (moreRoom script).Alike tight roomy) : roomy = tight := by
  have hsame : (anyCache script).Alike tight roomy := halike
  exact (anyCache_alike hsame).symm

theorem equalRoom_alike {script : String} {tight roomy : Except Error α}
    (halike : (equalRoom script).Alike tight roomy) :
    roomy.mapError Error.unnumbered = tight.mapError Error.unnumbered := by
  cases tight <;> cases roomy
  next e e' => exact congrArg Except.error (Eq.symm halike)
  next => cases halike
  next => cases halike
  next a b => exact congrArg Except.ok (Eq.symm halike)

namespace Interpreter

section

variable {script : String} {limit limit' depth depth' : Nat} {tight roomy : Interpreter}
  (htight : tight.Serves script limit) (hroomy : roomy.Serves script limit')

include htight hroomy

theorem caller_relates_moreRoom (hroom : limit - depth ≤ limit' - depth') :
    (tight.caller depth).Relates (moreRoom script) (roomy.caller depth') := by
  rw [htight.caller_eq, hroomy.caller_eq]
  exact callWithin_relates_moreRoom script limit limit' hroom

theorem caller_relates_equalRoom (hroom : limit - depth = limit' - depth') :
    (tight.caller depth).Relates (equalRoom script) (roomy.caller depth') := by
  rw [htight.caller_eq, hroomy.caller_eq, ← hroom]
  exact callWithin_relates_equalRoom script limit limit' (limit - depth)

theorem runSession_moreRoom {session session' : Session α}
    (hsession : (moreRoom script).Relates (moreRoom script).programs session session')
    (hcut : ¬ CutOff (tight.runSession session).1) :
    (roomy.runSession session').1 = (tight.runSession session).1 := by
  rcases hsession _ _ ⟨htight.faithful, hroomy.faithful⟩ with ⟨_, herror, n, rfl⟩ | ⟨halike, _⟩
  · exact absurd ⟨n, herror⟩ hcut
  · exact moreRoom_alike halike

theorem runSession_equalRoom {session session' : Session α}
    (hsession : (equalRoom script).Relates (equalRoom script).programs session session') :
    (roomy.runSession session').1.mapError Error.unnumbered =
      (tight.runSession session).1.mapError Error.unnumbered := by
  rcases hsession _ _ ⟨htight.faithful, hroomy.faithful⟩ with ⟨_, _, hcut⟩ | ⟨halike, _⟩
  · exact hcut.elim
  · exact equalRoom_alike halike

theorem runFrame_moreRoom {run run' : Run α} (env : Environment)
    (hrun : (moreRoom script).Relates (moreRoom script).Frames run run')
    (hcut : ¬ CutOff (tight.runFrame env run).1) :
    (roomy.runFrame env run').1 = (tight.runFrame env run).1 ∧
      (roomy.runFrame env run').2.1 = (tight.runFrame env run).2.1 := by
  rcases hrun ⟨env, tight.programs⟩ ⟨env, roomy.programs⟩
    ⟨rfl, htight.faithful, hroomy.faithful⟩ with ⟨_, herror, n, rfl⟩ | ⟨halike, henv, _⟩
  · exact absurd ⟨n, herror⟩ hcut
  · exact ⟨moreRoom_alike halike, henv.symm⟩

theorem runFrame_equalRoom {run run' : Run α} (env : Environment)
    (hrun : (equalRoom script).Relates (equalRoom script).Frames run run') :
    (roomy.runFrame env run').1.mapError Error.unnumbered =
        (tight.runFrame env run).1.mapError Error.unnumbered ∧
      (roomy.runFrame env run').2.1 = (tight.runFrame env run).2.1 := by
  rcases hrun ⟨env, tight.programs⟩ ⟨env, roomy.programs⟩
    ⟨rfl, htight.faithful, hroomy.faithful⟩ with ⟨_, _, hcut⟩ | ⟨halike, henv, _⟩
  · exact hcut.elim
  · exact ⟨equalRoom_alike halike, henv.symm⟩

end

/-- The limit only ever cuts runs off.  Where there is at least as much room, a run
that is not cut off ends the same way and leaves the same variables; with equally
much room so does every run, up to the limit that it reports.  Neither depends on
what the interpreters were asked before. -/
theorem limit_only_cuts_off (script : String) (requests requests' : List Request)
    {limit limit' depth depth' : Nat} (hroom : limit + depth' ≤ limit' + depth) :
    let tight := ((fresh script limit).performAll requests).2
    let roomy := ((fresh script limit').performAll requests').2
    let sameRoom := limit + depth' = limit' + depth
    (∀ name args,
      let short := tight.callAt depth name args
      let long := roomy.callAt depth' name args
      (¬ CutOff short.1 → long.1 = short.1) ∧
        (sameRoom →
          long.1.mapError Error.unnumbered = short.1.mapError Error.unnumbered)) ∧
    (∀ expr env,
      let short := tight.evaluate expr env depth
      let long := roomy.evaluate expr env depth'
      (¬ CutOff short.1 → long.1 = short.1 ∧ long.2.1 = short.2.1) ∧
        (sameRoom →
          long.1.mapError Error.unnumbered = short.1.mapError Error.unnumbered ∧
            long.2.1 = short.2.1)) ∧
    (∀ statement env,
      let short := tight.execute statement env depth
      let long := roomy.execute statement env depth'
      (¬ CutOff short.1 → long.1 = short.1 ∧ long.2.1 = short.2.1) ∧
        (sameRoom →
          long.1.mapError Error.unnumbered = short.1.mapError Error.unnumbered ∧
            long.2.1 = short.2.1)) := by
  intro tight roomy sameRoom
  have htight : tight.Serves script limit :=
    (performAll_agrees requests (fresh_serves script limit) (fresh_serves script limit)).2
  have hroomy : roomy.Serves script limit' :=
    (performAll_agrees requests' (fresh_serves script limit') (fresh_serves script limit')).2
  have hmore : ∀ below, (tight.caller (depth + below)).Relates (moreRoom script)
      (roomy.caller (depth' + below)) :=
    fun below => caller_relates_moreRoom htight hroomy (by omega)
  have hequal : sameRoom → ∀ below, (tight.caller (depth + below)).Relates (equalRoom script)
      (roomy.caller (depth' + below)) :=
    fun hsame below => caller_relates_equalRoom htight hroomy (by omega)
  refine ⟨?call, ?evaluate, ?execute⟩
  case call =>
    intro name args short long
    constructor
    · intro hcut
      exact runSession_moreRoom htight hroomy (hmore 0 name args) hcut
    · intro hsame
      exact runSession_equalRoom htight hroomy (hequal hsame 0 name args)
  case evaluate =>
    intro expr env short long
    constructor
    · intro hcut
      exact runFrame_moreRoom htight hroomy env (expr.evaluate_relates (hmore 1)) hcut
    · intro hsame
      exact runFrame_equalRoom htight hroomy env (expr.evaluate_relates (hequal hsame 1))
  case execute =>
    intro statement env short long
    constructor
    · intro hcut
      exact runFrame_moreRoom htight hroomy env (statement.execute_relates (hmore 1)) hcut
    · intro hsame
      exact runFrame_equalRoom htight hroomy env (statement.execute_relates (hequal hsame 1))

/-- Two calls deep, with just enough room and with more of it. -/
theorem call_with_room_for_two :
    let script := "function f(a)\x7breturn g(a)\x7dfunction g(a)\x7breturn a.length\x7d"
    2 + 1 ≤ 5 + 0 ∧
      ((fresh script 2).callAt 0 "f" [.str "xyz"]).1 = .ok (.int 3) ∧
      ((fresh script 5).callAt 1 "f" [.str "xyz"]).1 = .ok (.int 3) := by
  intro script
  have hroom : 2 + 1 ≤ 5 + 0 := by decide
  have hshort : ((fresh script 2).callAt 0 "f" [.str "xyz"]).1 = .ok (.int 3) := by
    decide +kernel
  have hcut : ¬ CutOff ((fresh script 2).callAt 0 "f" [.str "xyz"]).1 := by
    rintro ⟨limit, hlimit⟩
    rw [hshort] at hlimit
    cases hlimit
  have hlong := ((limit_only_cuts_off script [] [] hroom).1 "f" [.str "xyz"]).1 hcut
  exact ⟨hroom, hshort, hlong.trans hshort⟩

end Interpreter

end StreamLinks.Cipher
