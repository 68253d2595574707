import StreamLinks.Proofs.Cipher.Cache
import StreamLinks.Proofs.Cipher.Scrambler

/-!
# Running a scrambler

The variable `a` of the main function holds the characters of the text as a
sequence throughout.  Each statement does to that sequence what its step does to the
characters; the exchange runs in a frame of its own, where the position is computed
again after the first write, so that the write must not have changed the length.
By induction over the steps a whole run does what all steps do, or stops at the first
exchange in an empty sequence.
-/

namespace StreamLinks.Cipher

/-! ## Positions in a sequence -/

theorem count_toInt {parts : Nat} (hparts : parts < 2 ^ 63) :
    (Value.count parts).toInt = parts := by
  have hmin : Int64.minValue.toInt = -2 ^ 63 := by decide
  have hmax : Int64.maxValue.toInt = 2 ^ 63 - 1 := by decide
  exact Int64.toInt_ofIntClamp (by omega) (by omega)

theorem elementAt_of_toInt {α : Type} {items : List α} {index : Int64} {position : Nat} {item : α}
    (hindex : index.toInt = position) (hitem : items[position]? = some item) :
    Value.elementAt items index = .ok item := by
  have hnonneg : ¬ index.toInt < 0 := by omega
  simp [Value.elementAt, hindex, hitem]

theorem replaceElement_of_lt {items : List String} {position : Nat} (item : String)
    (hposition : position < items.length) :
    Value.replaceElement items position item = items.set position item := by
  have hfits : position + 1 - items.length = 0 := by omega
  simp [Value.replaceElement, hfits]

theorem writeAt_of_lt {env : Environment} {target item : String} {items : List String}
    {index : Int64} {position : Nat} (hbound : env.get? target = some (.seq items))
    (hindex : index.toInt = position) (hposition : position < items.length)
    (hlength : items.length ≤ Value.maxGrownLength) :
    env.writeAt target index item =
      (.ok (), env.put target (.seq (items.set position item))) := by
  have hopened := Environment.opened_of_bound hbound
  have hnonneg : ¬ index.toInt < 0 := by omega
  have hnat : index.toInt.toNat = position := by omega
  have hlimit : ¬ Value.maxGrownLength ≤ position := by omega
  rw [Environment.writeAt, if_neg hnonneg, hopened, hbound]
  simp [hnat, hlimit, replaceElement_of_lt item hposition]

/-- The remainder of a position by the length of a sequence is a position in it. -/
theorem remainder_toInt {index : Int64} {position length : Nat} (hindex : index.toInt = position)
    (hpos : 0 < length) (hlength : length < 2 ^ 63) :
    ∃ n, Value.remainder index (Value.count length) = .ok (.int n) ∧
      n.toInt = ((position % length : Nat) : Int) := by
  have hcount := count_toInt hlength
  refine ⟨index % Value.count length, ?_, ?_⟩
  · have hzero : Value.count length ≠ 0 := by
      intro h
      rw [h] at hcount
      simp at hcount
      omega
    have hoverflow : index ≠ Int64.minValue := by
      rintro rfl
      have hmin : Int64.minValue.toInt = -2 ^ 63 := by decide
      omega
    simp [Value.remainder, hzero, hoverflow]
  · rw [Int64.toInt_mod, hindex, hcount]
    exact Int.ofNat_tmod position length

/-! ## The exchange -/

section

variable {call : Caller} {index : Int64} {position : Nat} {items : List String}

theorem evaluate_position {frame : Frame} (ha : frame.env.get? "a" = some (.seq items))
    (hb : frame.env.get? "b" = some (.int index)) (hindex : index.toInt = position)
    (hne : 0 < items.length) (hlength : items.length ≤ Value.maxGrownLength) :
    ∃ n, (Expr.modulo (.variable "b") (.length "a")).evaluate call frame = (.ok (.int n), frame) ∧
      n.toInt = ((position % items.length : Nat) : Int) := by
  have hfits : items.length < 2 ^ 63 := by
    have hlimit : Value.maxGrownLength = 65536 := rfl
    omega
  obtain ⟨n, hremainder, hn⟩ := remainder_toInt hindex hne hfits
  refine ⟨n, ?_, hn⟩
  have hdivisor : (Expr.length "a").evaluate call frame =
      (.ok (.int (Value.count items.length)), frame) := evaluate_length ha
  rw [evaluate_modulo (evaluate_variable hb) rfl hdivisor rfl, hremainder]

theorem evaluate_element {frame : Frame} {item object : String} {place : Expr}
    (hplace : place.evaluate call frame = (.ok (.int index), frame))
    (hindex : index.toInt = position)
    (hbound : frame.env.get? object = some (.seq items)) (hitem : items[position]? = some item) :
    (Expr.index object place).evaluate call frame = (.ok (.str item), frame) := by
  have hread : (Value.seq items).itemAt index = .ok (.str item) := by
    rw [Value.itemAt, elementAt_of_toInt hindex hitem]
    rfl
  rw [evaluate_index hplace rfl hbound, hread]

theorem execute_replace {frame : Frame} {item target : String} {place value : Expr}
    (hvalue : value.evaluate call frame = (.ok (.str item), frame))
    (hplace : place.evaluate call frame = (.ok (.int index), frame))
    (hindex : index.toInt = position)
    (hbound : frame.env.get? target = some (.seq items)) (hposition : position < items.length)
    (hlength : items.length ≤ Value.maxGrownLength) :
    (Statement.assignAt target place value).execute call frame =
      (.ok none,
        { frame with env := frame.env.put target (.seq (items.set position item)) }) := by
  have hwrite := @writeAt_of_lt _ _ item _ _ _ hbound hindex hposition hlength
  exact execute_assignAt hvalue hplace rfl rfl hwrite

/-- The body of the exchange, where there is something to exchange. -/
theorem swapper_executeAll {env : Environment} (helper : String) (programs : Programs)
    (ha : env.get? "a" = some (.seq items)) (hb : env.get? "b" = some (.int index))
    (hindex : index.toInt = position) (hne : 0 < items.length)
    (hlength : items.length ≤ Value.maxGrownLength) :
    ∃ env', executeAll call (swapper helper).body ⟨env, programs⟩ =
      (.ok (some (.seq (exchange items (position % items.length)))), ⟨env', programs⟩) := by
  have hmod : position % items.length < items.length := Nat.mod_lt position hne
  obtain ⟨first, hfirst⟩ : ∃ first, items[0]? = some first := ⟨_, List.getElem?_eq_getElem hne⟩
  obtain ⟨other, hother⟩ : ∃ other, items[position % items.length]? = some other :=
    ⟨_, List.getElem?_eq_getElem hmod⟩
  -- `var c=a[0]`
  let env₁ : Environment := env.put "c" (.str first)
  have ha₁ : env₁.get? "a" = some (.seq items) := by simp [env₁, Dictionary.get?_put, ha]
  have hb₁ : env₁.get? "b" = some (.int index) := by simp [env₁, Dictionary.get?_put, hb]
  have hstep₁ : (Statement.assign "c" (.index "a" (.literal 0))).execute call ⟨env, programs⟩ =
      (.ok none, ⟨env₁, programs⟩) :=
    execute_assign (evaluate_element (evaluate_literal 0) Int64.toInt_zero ha hfirst)
  -- `a[0]=a[b%a.length]`
  let env₂ : Environment := env₁.put "a" (.seq (items.set 0 other))
  have ha₂ : env₂.get? "a" = some (.seq (items.set 0 other)) := by
    simp [env₂, Dictionary.get?_put]
  have hb₂ : env₂.get? "b" = some (.int index) := by simp [env₂, Dictionary.get?_put, hb₁]
  have hc₂ : env₂.get? "c" = some (.str first) := by simp [env₂, env₁, Dictionary.get?_put]
  have hstep₂ : (Statement.assignAt "a" (.literal 0)
      (.index "a" (.modulo (.variable "b") (.length "a")))).execute call ⟨env₁, programs⟩ =
      (.ok none, ⟨env₂, programs⟩) := by
    obtain ⟨n, hplace, hn⟩ :=
      @evaluate_position call _ _ _ ⟨env₁, programs⟩ ha₁ hb₁ hindex hne hlength
    have hvalue := evaluate_element hplace hn ha₁ hother
    exact execute_replace hvalue (evaluate_literal 0) Int64.toInt_zero ha₁ hne hlength
  -- `a[b%a.length]=c`, where the position comes out as before
  let env₃ : Environment :=
    env₂.put "a" (.seq ((items.set 0 other).set (position % items.length) first))
  have hstep₃ : (Statement.assignAt "a" (.modulo (.variable "b") (.length "a"))
      (.variable "c")).execute call ⟨env₂, programs⟩ = (.ok none, ⟨env₃, programs⟩) := by
    have hsame : (items.set 0 other).length = items.length := List.length_set
    obtain ⟨n, hplace, hn⟩ :=
      @evaluate_position call _ _ _ ⟨env₂, programs⟩ ha₂ hb₂ hindex (hsame ▸ hne)
        (hsame ▸ hlength)
    rw [hsame] at hn
    exact execute_replace (evaluate_variable hc₂) hplace hn ha₂ (hsame ▸ hmod) (hsame ▸ hlength)
  -- `return a`
  have hexchange : exchange items (position % items.length) =
      (items.set 0 other).set (position % items.length) first := by
    simp only [exchange, hfirst, hother]
  have hreturn : (Expr.variable "a").evaluate call ⟨env₃, programs⟩ =
      (.ok (.seq (exchange items (position % items.length))), ⟨env₃, programs⟩) := by
    refine evaluate_variable ?_
    simp [env₃, Dictionary.get?_put, hexchange]
  refine ⟨env₃, ?_⟩
  rw [swapper, executeAll_cons hstep₁, executeAll_cons hstep₂, executeAll_cons hstep₃,
    executeAll_singleton_ret, hreturn]
  rfl

/-- The function that exchanges two elements does so in a sequence that has any. -/
theorem swapper_run (helper : String) (programs : Programs) (hindex : index.toInt = position)
    (hlength : items.length ≤ Value.maxGrownLength) :
    Session.inFrame (Environment.bind (swapper helper).params [.seq items, .int index])
        ((swapper helper).run call) programs =
      (if items = [] then .error (.indexOutOfRange 0 0)
        else .ok (.seq (exchange items (position % items.length))), programs) := by
  rw [Session.inFrame_apply]
  generalize henv : Environment.bind (swapper helper).params [.seq items, .int index] = env
  have ha : env.get? "a" = some (.seq items) := by
    rw [← henv]
    rfl
  have hb : env.get? "b" = some (.int index) := by
    rw [← henv]
    rfl
  by_cases hempty : items = []
  · subst hempty
    have hvalue : (Expr.index "a" (.literal 0)).evaluate call ⟨env, programs⟩ =
        (.error (.indexOutOfRange 0 0), ⟨env, programs⟩) := by
      rw [evaluate_index (evaluate_literal 0) rfl ha]
      rfl
    have hbody : executeAll call (swapper helper).body ⟨env, programs⟩ =
        (.error (.indexOutOfRange 0 0), ⟨env, programs⟩) :=
      executeAll_cons_of_error (execute_assign_of_error hvalue)
    rw [run_of_executeAll_error hbody]
    rfl
  · have hne : 0 < items.length := List.length_pos_iff.mpr hempty
    obtain ⟨env', hbody⟩ := swapper_executeAll helper programs ha hb hindex hne hlength
    rw [run_of_executeAll hbody, if_neg hempty]

end

/-! ## The steps -/

/-- The characters as a sequence. -/
def letters (chars : List Char) : List String :=
  chars.map fun c => String.ofList [c]

theorem join_letters (chars : List Char) : String.join (letters chars) = String.ofList chars := by
  rw [← String.toList_inj, String.toList_join, letters, String.toList_ofList]
  induction chars with
  | nil => rfl
  | cons c chars ih => simpa using ih

theorem length_letters (chars : List Char) : (letters chars).length = chars.length :=
  List.length_map _

/-- The slice of the letters consists of the letters in the slice. -/
theorem slice_letters (chars : List Char) (start : Int64) :
    (Value.seq (letters chars)).slice start =
      .ok (.seq (letters (chars.drop (Value.sliceStart start chars.length)))) := by
  rw [Value.slice, length_letters, letters, letters, List.map_drop]

theorem drop_sliceStart {α : Type} {start : Int64} {position : Nat}
    (hstart : start.toInt = position) (items : List α) :
    items.drop (Value.sliceStart start items.length) = items.drop position := by
  have hnonneg : ¬ start.toInt < 0 := by omega
  have hnat : start.toInt.toNat = position := by omega
  rw [Value.sliceStart, if_neg hnonneg, hnat]
  rcases Nat.le_total position items.length with hle | hle
  · rw [Nat.min_eq_left hle]
  · rw [Nat.min_eq_right hle, List.drop_length, List.drop_of_length_le hle]

theorem exchange_letters (chars : List Char) (position : Nat) :
    exchange (letters chars) position = letters (exchange chars position) := by
  unfold exchange letters
  rw [List.getElem?_map, List.getElem?_map]
  cases chars[0]? with
  | none => rfl
  | some first =>
      cases chars[position]? with
      | none => rfl
      | some other => simp [List.map_set]

/-- The variable `a` holds the characters. -/
structure HoldsLetters (script : String) (chars : List Char) (frame : Frame) : Prop where
  bound : frame.env.get? "a" = some (.seq (letters chars))
  faithful : FaithfulTo script frame.programs
  length_le : chars.length ≤ Value.maxGrownLength

theorem HoldsLetters.put {script : String} {chars : List Char} {frame : Frame}
    (hfaithful : FaithfulTo script frame.programs)
    (hlength : chars.length ≤ Value.maxGrownLength) :
    HoldsLetters script chars
      { frame with env := frame.env.put "a" (.seq (letters chars)) } where
  bound := by simp [Dictionary.get?_put]
  faithful := hfaithful
  length_le := hlength

section

variable {script helper : String} {limit frames : Nat} {chars : List Char} {frame : Frame}

/-- The call that a swap makes. -/
theorem evaluate_swap (hload : loadFunction script helper = .ok (swapper helper))
    (hframe : HoldsLetters script chars frame) (position : Fin (2 ^ 63)) :
    ∃ after, FaithfulTo script after.programs ∧
      (Expr.call helper [.variable "a", .literal (Int64.ofInt position.val)]).evaluate
          (callWithin script limit (frames + 1)) frame =
        (if chars = [] then .error (.indexOutOfRange 0 0)
          else .ok (.seq (letters (exchange chars (position.val % chars.length)))), after) := by
  have hargs : [Arg.variable "a", .literal (Int64.ofInt position.val)].mapM Arg.evaluate frame =
      (.ok [.seq (letters chars), .int (Int64.ofInt position.val)], frame) := by
    have hvariable : (Arg.variable "a").evaluate frame = (.ok (.seq (letters chars)), frame) :=
      read_of_bound hframe.bound
    rw [List.mapM_cons, bind_apply_of_ok hvariable]
    rfl
  have hlength : (letters chars).length ≤ Value.maxGrownLength := by
    simpa [letters] using hframe.length_le
  obtain ⟨programs, hfaithful, hcall⟩ := hframe.faithful.callWithin hload limit frames
    [.seq (letters chars), .int (Int64.ofInt position.val)]
  have hempty : letters chars = [] ↔ chars = [] := by simp [letters]
  have hsame : (letters chars).length = chars.length := by simp [letters]
  refine ⟨⟨frame.env, programs⟩, hfaithful, ?_⟩
  rw [evaluate_call hargs, hcall,
    swapper_run helper programs (Text.toInt_ofInt_natCast position.isLt) hlength]
  simp only [hempty, hsame, exchange_letters]

/-- A step that can be done is done to the variable. -/
theorem execute_step_of_some (hload : loadFunction script helper = .ok (swapper helper))
    (hframe : HoldsLetters script chars frame) {step : ScrambleStep} {next : List Char}
    (hstep : step.apply chars = some next) :
    ∃ after, HoldsLetters script next after ∧
      (step.statement helper).execute (callWithin script limit (frames + 1)) frame =
        (.ok none, after) := by
  have hlength := hframe.length_le
  cases step with
  | reverse =>
      cases hstep
      have hvalue := @evaluate_reverse (callWithin script limit (frames + 1)) frame
        (.seq (letters chars)) (.seq (letters chars.reverse)) "a" hframe.bound
        (by simp [Value.reverse, letters])
      have hsame : chars.reverse.length ≤ Value.maxGrownLength := by simpa using hlength
      refine ⟨_, ?_, execute_assign hvalue⟩
      exact .put hframe.faithful hsame
  | drop count =>
      cases hstep
      have hcount := Text.toInt_ofInt_natCast count.isLt
      have hvalue : (Expr.slice "a" (.literal (Int64.ofInt count.val))).evaluate
          (callWithin script limit (frames + 1)) frame =
            (.ok (.seq (letters (chars.drop count.val))), frame) := by
        rw [evaluate_slice (evaluate_literal _) rfl hframe.bound, slice_letters,
          drop_sliceStart hcount]
      have hshorter : (chars.drop count.val).length ≤ Value.maxGrownLength := by
        rw [List.length_drop]
        omega
      exact ⟨_, .put hframe.faithful hshorter, execute_assign hvalue⟩
  | swap position =>
      obtain ⟨hne, hnext⟩ : chars ≠ [] ∧ exchange chars (position.val % chars.length) = next := by
        simpa [ScrambleStep.apply] using hstep
      obtain ⟨after, hfaithful, hvalue⟩ := evaluate_swap hload hframe position
      rw [if_neg hne, hnext] at hvalue
      have hsame : next.length ≤ Value.maxGrownLength := by
        rw [← hnext, exchange_length]
        exact hlength
      exact ⟨_, .put hfaithful hsame, execute_assign hvalue⟩

/-- A step that cannot be done is an exchange in an empty sequence. -/
theorem execute_step_of_none (hload : loadFunction script helper = .ok (swapper helper))
    (hframe : HoldsLetters script chars frame) {step : ScrambleStep}
    (hstep : step.apply chars = none) :
    ∃ after, (step.statement helper).execute (callWithin script limit (frames + 1)) frame =
      (.error (.indexOutOfRange 0 0), after) := by
  cases step with
  | reverse => cases hstep
  | drop count => cases hstep
  | swap position =>
      have hempty : chars = [] := by simpa [ScrambleStep.apply] using hstep
      obtain ⟨after, _, hvalue⟩ := evaluate_swap hload hframe position
      rw [if_pos hempty] at hvalue
      exact ⟨after, execute_assign_of_error hvalue⟩

/-- All steps and the final joining. -/
theorem executeAll_steps (hload : loadFunction script helper = .ok (swapper helper))
    (hframe : HoldsLetters script chars frame) (steps : List ScrambleStep) :
    ∃ after, executeAll (callWithin script limit (frames + 1))
        (steps.map (ScrambleStep.statement helper) ++ [.ret (.join "a")]) frame =
      (match scramble steps chars with
        | some out => .ok (some (.str (String.ofList out)))
        | none => .error (.indexOutOfRange 0 0), after) := by
  induction steps generalizing chars frame with
  | nil =>
      have hvalue : (Expr.join "a").evaluate (callWithin script limit (frames + 1)) frame =
          (.ok (.str (String.ofList chars)), frame) := by
        rw [evaluate_join hframe.bound, Value.join, join_letters]
      refine ⟨frame, ?_⟩
      rw [List.map_nil, List.nil_append, executeAll_singleton_ret, hvalue]
      rfl
  | cons step steps ih =>
      cases hstep : step.apply chars with
      | none =>
          obtain ⟨after, hexecute⟩ :=
            @execute_step_of_none _ _ limit frames _ _ hload hframe _ hstep
          refine ⟨after, ?_⟩
          rw [List.map_cons, List.cons_append, executeAll_cons_of_error hexecute]
          simp [scramble, hstep]
      | some next =>
          obtain ⟨middle, hmiddle, hexecute⟩ :=
            @execute_step_of_some _ _ limit frames _ _ hload hframe _ _ hstep
          obtain ⟨after, hrest⟩ := ih hmiddle
          refine ⟨after, ?_⟩
          rw [List.map_cons, List.cons_append, executeAll_cons hexecute, hrest]
          simp [scramble, hstep]

/-- The main function on a text. -/
theorem scrambler_run {main scrambled : String} (steps : List ScrambleStep) {programs : Programs}
    (hload : loadFunction script helper = .ok (swapper helper))
    (hfaithful : FaithfulTo script programs) (hlength : scrambled.length ≤ Value.maxGrownLength) :
    (Session.inFrame (Environment.bind (scrambler main helper steps).params [.str scrambled])
        ((scrambler main helper steps).run (callWithin script limit (frames + 1))) programs).1 =
      match scramble steps scrambled.toList with
      | some out => .ok (.str (String.ofList out))
      | none => .error (.indexOutOfRange 0 0) := by
  rw [Session.inFrame_apply]
  generalize henv : Environment.bind (scrambler main helper steps).params [.str scrambled] = env
  have ha : env.get? "a" = some (.str scrambled) := by
    rw [← henv]
    rfl
  have hsplit : (Expr.split "a").evaluate (callWithin script limit (frames + 1)) ⟨env, programs⟩ =
      (.ok (.seq (letters scrambled.toList)), ⟨env, programs⟩) := by
    rw [evaluate_split ha]
    rfl
  have hchars : scrambled.toList.length ≤ Value.maxGrownLength := by
    rw [String.length_toList]
    exact hlength
  have hframe := @HoldsLetters.put script scrambled.toList ⟨env, programs⟩ hfaithful hchars
  obtain ⟨after, hrest⟩ := @executeAll_steps _ _ limit frames _ _ hload hframe steps
  have hbody : executeAll (callWithin script limit (frames + 1))
      (scrambler main helper steps).body ⟨env, programs⟩ = _ :=
    (executeAll_cons (execute_assign hsplit)).trans hrest
  cases hscramble : scramble steps scrambled.toList with
  | none =>
      rw [hscramble] at hbody
      dsimp only
      rw [run_of_executeAll_error hbody]
  | some out =>
      rw [hscramble] at hbody
      dsimp only
      rw [run_of_executeAll hbody]

end

namespace Interpreter

/-- A scrambler deciphers a text to what its steps make of the characters.  It fails
exactly where a swap meets an empty sequence. -/
theorem decipher_scrambler {main helper : String} (hmain : isFreeName main = true)
    (hhelper : isFreeName helper = true) (hne : main ≠ helper) {limit : Nat} (hlimit : 2 ≤ limit)
    (steps : List ScrambleStep) {scrambled : String} (hlength : scrambled.length ≤ 65536) :
    ((fresh (scramblerScript main helper steps) limit).decipher main scrambled).1 =
      match scramble steps scrambled.toList with
      | some out => .ok (String.ofList out)
      | none => .error (.indexOutOfRange 0 0) := by
  obtain ⟨frames, rfl⟩ : ∃ frames, limit = frames + 2 := ⟨limit - 2, by omega⟩
  have hloadMain := loadFunction_main hmain hhelper steps
  have hloadHelper := loadFunction_helper hmain hhelper hne steps
  obtain ⟨programs, hfaithful, hcall⟩ :=
    (faithfulTo_empty (scramblerScript main helper steps)).callWithin hloadMain (frames + 2)
      (frames + 1) [.str scrambled]
  have hrun := @scrambler_run _ helper (frames + 2) frames main scrambled steps programs
    hloadHelper hfaithful hlength
  have hdecipher : ((fresh (scramblerScript main helper steps) (frames + 2)).decipher main
      scrambled).1 =
        (callWithin (scramblerScript main helper steps) (frames + 2) (frames + 1 + 1) main
          [.str scrambled] Dictionary.empty).1.bind Value.toResult := rfl
  rw [hdecipher, hcall, hrun]
  cases scramble steps scrambled.toList <;> rfl

/-- The steps of a scrambler with two swaps, the second of them beyond the end. -/
theorem decipher_scrambler_of_four :
    let steps : List ScrambleStep := [.swap 2, .reverse, .drop 1, .swap 7]
    ((fresh (scramblerScript "dec" "$s" steps) 2).decipher "dec" "abcd").1 = .ok "bac" := by
  intro steps
  have hdecipher := @decipher_scrambler "dec" "$s" (by decide +kernel) (by decide +kernel)
    (by decide +kernel) 2 (by decide) steps "abcd" (by decide +kernel)
  have hsteps : scramble steps "abcd".toList = some ['b', 'a', 'c'] := by decide +kernel
  rw [hdecipher, hsteps]

end Interpreter

end StreamLinks.Cipher
