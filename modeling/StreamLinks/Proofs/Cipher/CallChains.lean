import Mathlib.Logic.Relation
import StreamLinks.Proofs.Cipher.Failures

/-!
# Chains of calls

Which functions a body calls can be read off its text: nothing in an expression
is ever skipped, so a body that returns has made every call up to its first
`return`.  The limit on open calls is therefore a limit on the chains of this
call graph.  A call that returns has no chain longer than the limit below it, and
one that meets the limit has a chain of one more function.
-/

namespace StreamLinks.Cipher

/-! ## The call graph of a script -/

/-- The script defines the first function, and its body calls the second. -/
def Calls (script caller callee : String) : Prop :=
  ∃ function, loadFunction script caller = .ok function ∧ callee ∈ bodyCallees function.body

/-- Every chain of calls from a function has at most `bound` functions. -/
def ChainsWithin (script : String) (bound : Nat) (name : String) : Prop :=
  ∀ callees, (name :: callees).IsChain (Calls script) → (name :: callees).length ≤ bound

/-- Some chain of calls from a function has exactly `count` functions. -/
def HasChain (script : String) (count : Nat) (name : String) : Prop :=
  ∃ callees, (name :: callees).IsChain (Calls script) ∧ (name :: callees).length = count

variable {script : String}

theorem Calls.mem_bodyCallees {name callee : String} {function : Function}
    (hcalls : Calls script name callee) (hload : loadFunction script name = .ok function) :
    callee ∈ bodyCallees function.body := by
  obtain ⟨found, hfound, hmem⟩ := hcalls
  rw [hload] at hfound
  cases hfound
  exact hmem

theorem ChainsWithin.of_calls {bound : Nat} {caller callee : String}
    (hwithin : ChainsWithin script bound caller) (hcalls : Calls script caller callee) :
    ∃ less < bound, ChainsWithin script less callee := by
  have hbound : 1 ≤ bound := hwithin [] (.singleton caller)
  refine ⟨bound - 1, by omega, ?_⟩
  intro callees hchain
  have hlonger := hwithin (callee :: callees) (.cons_cons hcalls hchain)
  rw [List.length_cons] at hlonger
  omega

theorem ChainsWithin.of_transGen {bound : Nat} {caller callee : String}
    (hwithin : ChainsWithin script bound caller)
    (hreach : Relation.TransGen (Calls script) caller callee) :
    ∃ less < bound, ChainsWithin script less callee := by
  induction hreach with
  | single hcalls => exact hwithin.of_calls hcalls
  | tail _ hcalls ih =>
      obtain ⟨less, hless, hmiddle⟩ := ih
      obtain ⟨least, hleast, hcallee⟩ := hmiddle.of_calls hcalls
      exact ⟨least, by omega, hcallee⟩

/-- Below a function that reaches itself chains have no bound. -/
theorem not_chainsWithin_of_cycle {name : String}
    (hcycle : Relation.TransGen (Calls script) name name) (bound : Nat) :
    ¬ ChainsWithin script bound name := by
  induction bound using Nat.strongRecOn with
  | ind bound ih =>
      intro hwithin
      obtain ⟨less, hless, hagain⟩ := hwithin.of_transGen hcycle
      exact ih less hless hagain

theorem chainsWithin_of_callees {bound : Nat} {name : String} {function : Function}
    (hload : loadFunction script name = .ok function)
    (hcallees : ∀ callee ∈ bodyCallees function.body, ChainsWithin script bound callee) :
    ChainsWithin script (bound + 1) name := by
  intro callees hchain
  cases callees with
  | nil => simp
  | cons callee callees =>
      obtain ⟨hcalls, hrest⟩ := List.isChain_cons_cons.mp hchain
      have hlength := hcallees callee (hcalls.mem_bodyCallees hload) callees hrest
      rw [List.length_cons]
      omega

theorem HasChain.of_callee {count : Nat} {name callee : String} {function : Function}
    (hload : loadFunction script name = .ok function)
    (hmem : callee ∈ bodyCallees function.body) (hchain : HasChain script count callee) :
    HasChain script (count + 1) name := by
  obtain ⟨callees, hcallees, hlength⟩ := hchain
  refine ⟨callee :: callees, .cons_cons ⟨function, hload, hmem⟩ hcallees, ?_⟩
  rw [List.length_cons, hlength]

/-! ## Calls within a limit -/

theorem loadFunction_ne_recursionLimit (script name : String) (limit : Nat) :
    loadFunction script name ≠ .error (.recursionLimit limit) := by
  unfold loadFunction
  cases findDefinition? script name with
  | none => simp
  | some definition =>
      dsimp only
      cases parseFunction name definition.params definition.body <;> simp [Except.mapError]

/-- The limit is reported as it is, and some chain is one function too long. -/
def Exceeds (script : String) (limit frames reported : Nat) (name : String) : Prop :=
  reported = limit ∧ HasChain script (frames + 1) name

/-- A call with some frames left returns only if the chains from its function fit
into them, and meets the limit only if some chain does not. -/
theorem callWithin_shows_chains (script : String) (limit frames : Nat) :
    (callWithin script limit frames).Shows script (ChainsWithin script frames) fun name e =>
      ∀ reported, e = .recursionLimit reported → Exceeds script limit frames reported name := by
  refine @callWithin_shows script limit (ChainsWithin script) (fun frames name e =>
    ∀ reported, e = .recursionLimit reported → Exceeds script limit frames reported name)
    ?_ ?_ (fun _ _ _ => chainsWithin_of_callees) ?_ frames
  · rintro name reported ⟨⟩
    exact ⟨rfl, [], .singleton name, rfl⟩
  · rintro frames name e hload reported rfl
    exact absurd hload (loadFunction_ne_recursionLimit script name reported)
  · rintro frames name function e hload (hown | ⟨callee, hmem, hblame⟩) reported rfl
    · exact hown.elim
    · obtain ⟨hlimit, hchain⟩ := hblame reported rfl
      exact ⟨hlimit, hchain.of_callee hload hmem⟩

namespace Interpreter

/-- The limit on open calls is exact.  A call that returns has no chain of calls
longer than the limit, so a function that reaches itself never returns; and a call
that meets the limit reports it, and has a chain of one function more. -/
theorem call_depth_exact (script : String) (limit : Nat) (requests : List Request)
    (name : String) (args : List Value) :
    let result := (((fresh script limit).performAll requests).2.call name args).1
    (∀ value, result = .ok value →
      (∀ callees, (name :: callees).IsChain (Calls script) →
        (name :: callees).length ≤ limit) ∧
      ¬ Relation.TransGen (Calls script) name name) ∧
    (∀ reported, result = .error (.recursionLimit reported) →
      reported = limit ∧
        ∃ callees, (name :: callees).IsChain (Calls script) ∧
          (name :: callees).length = limit + 1) := by
  intro result
  have hserves :=
    (performAll_agrees requests (fresh_serves script limit) (fresh_serves script limit)).2
  have hresult : result = (callWithin script limit limit name args
      ((fresh script limit).performAll requests).2.programs).1 := by
    simp only [result, call, callAt, hserves.caller_eq]
    rfl
  obtain ⟨_, hok, herror⟩ := callWithin_shows_chains script limit limit name args _ hserves.faithful
  rw [← hresult] at hok herror
  constructor
  · intro value hvalue
    have hwithin := hok value hvalue
    exact ⟨hwithin, fun hcycle => not_chainsWithin_of_cycle hcycle limit hwithin⟩
  · intro reported hreported
    exact herror _ hreported reported rfl

/-- A call hidden in an index, with room for both functions and with room for one. -/
theorem call_depth_exact_of_two :
    let script := "function f(a)\x7bvar c=a[g(a)%a.length];return c\x7d"
      ++ "function g(a)\x7breturn a.length\x7d"
    ((fresh script 2).call "f" [.str "xyz"]).1 = .ok (.str "x") ∧
      (∀ callees, ("f" :: callees).IsChain (Calls script) → ("f" :: callees).length ≤ 2) ∧
      ((fresh script 1).call "f" [.str "xyz"]).1 = .error (.recursionLimit 1) ∧
      ∃ callees, ("f" :: callees).IsChain (Calls script) ∧ ("f" :: callees).length = 2 := by
  intro script
  have hreturns : ((fresh script 2).call "f" [.str "xyz"]).1 = .ok (.str "x") := by
    decide +kernel
  have hcutOff : ((fresh script 1).call "f" [.str "xyz"]).1 = .error (.recursionLimit 1) := by
    decide +kernel
  have hbound := ((call_depth_exact script 2 [] "f" [.str "xyz"]).1 _ hreturns).1
  have hchain := ((call_depth_exact script 1 [] "f" [.str "xyz"]).2 _ hcutOff).2
  exact ⟨hreturns, hbound, hcutOff, hchain⟩

end Interpreter

end StreamLinks.Cipher
