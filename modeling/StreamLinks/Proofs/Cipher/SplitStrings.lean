import StreamLinks.Proofs.Dictionary
import StreamLinks.Proofs.Cipher.IndexedAssignment
import StreamLinks.Proofs.Cipher.Unscrambling

/-!
# Strings and their letters

Splitting a string gives the sequence of its letters.  Lengths, indices and slices have a case of
their own for strings and for sequences; here the two cases are shown to agree on a string and its
letters, for all indices and starts, and splitting and joining to lead from one to the other.
-/

namespace StreamLinks.Cipher

/-- `items` is what is left of `elements` from the place `n` on: all but the first `n` of them, or
the last `-n` if `n` is negative, as far as there are so many. -/
structure IsRestFrom (n : Int) (elements items : List String) : Prop where
  suffix : items <:+ elements
  nonneg : 0 ≤ n → items.length = elements.length - min n.toNat elements.length
  negative : n < 0 → items.length = min n.natAbs elements.length

/-! ## Operations on values -/

theorem split_eq_letters (text : String) :
    (Value.str text).split = .ok (.seq (letters text.toList)) := rfl

theorem length_eq_of_letters (text : String) :
    (Value.seq (letters text.toList)).length = (Value.str text).length := by
  rw [Value.length, Value.length, length_letters, String.length_toList]

theorem elementAt_map {α β : Type} (f : α → β) (items : List α) (index : Int64) :
    Value.elementAt (items.map f) index = f <$> Value.elementAt items index := by
  unfold Value.elementAt
  rw [List.length_map, List.getElem?_map]
  split
  · rfl
  · cases items[index.toInt.toNat]? <;> rfl

theorem itemAt_eq_of_letters (text : String) (index : Int64) :
    (Value.str text).itemAt index = (Value.seq (letters text.toList)).itemAt index := by
  simp only [Value.itemAt, letters, elementAt_map]
  cases Value.elementAt text.toList index <;> rfl

theorem join_eq_of_letters (text : String) :
    (Value.seq (letters text.toList)).join = .ok (.str text) := by
  rw [Value.join, join_letters, String.ofList_toList]

theorem isRestFrom_of_slice {n : Int64} {elements items : List String}
    (hslice : (Value.seq elements).slice n = .ok (.seq items)) :
    IsRestFrom n.toInt elements items := by
  cases hslice
  constructor
  · exact List.drop_suffix _ _
  · intro hn
    rw [List.length_drop, Value.sliceStart, if_neg (Int.not_lt.mpr hn)]
  · intro hn
    rw [List.length_drop, Value.sliceStart, if_pos hn]
    omega

theorem exists_slices_of_text (text : String) (n : Int64) :
    ∃ rest, (Value.str text).slice n = .ok (.str rest) ∧
      (Value.seq (letters text.toList)).slice n = .ok (.seq (letters rest.toList)) ∧
      IsRestFrom n.toInt (letters text.toList) (letters rest.toList) := by
  have hslice := slice_letters text.toList n
  rw [String.length_toList] at hslice
  refine ⟨_, rfl, ?_⟩
  rw [String.toList_ofList]
  exact ⟨hslice, isRestFrom_of_slice hslice⟩

/-! ## Evaluation -/

section

variable {call : Caller} {frame : Frame} {x y : String} {v w : Value}

/-- Positions are computed first and change no variable, so objects with the same items give the
same outcome. -/
theorem evaluate_index_congr (hx : frame.env.get? x = some v) (hy : frame.env.get? y = some w)
    (hitems : ∀ n, v.itemAt n = w.itemAt n) (position : Expr) :
    (Expr.index x position).evaluate call frame = (Expr.index y position).evaluate call frame := by
  rcases hposition : position.evaluate call frame with ⟨result, after⟩
  cases result with
  | error e =>
      rw [Expr.evaluate, Expr.evaluate, bind_apply_of_error hposition,
        bind_apply_of_error hposition]
  | ok u =>
      cases hn : u.toInt .index with
      | error e =>
          rw [Expr.evaluate, Expr.evaluate, bind_apply_of_ok hposition,
            bind_apply_of_ok hposition, hn]
          rfl
      | ok n =>
          have hsame := Expr.evaluate_env_of_kind hposition (kind_of_toInt hn)
          rw [← hsame] at hx hy
          rw [evaluate_index hposition hn hx, evaluate_index hposition hn hy, hitems]

end

namespace Interpreter

variable {interpreter next : Interpreter} {env after : Environment} {depth : Nat}
  {x y text : String} {start : Expr} {u v w : Value} {n : Int64}

theorem evaluate_split_eq (hx : env.get? x = some v) :
    interpreter.evaluate (.split x) env depth = (v.split, env, interpreter) :=
  runFrame_eq_iff.mpr ⟨Cipher.evaluate_split hx, rfl⟩

theorem evaluate_join_eq (hx : env.get? x = some v) :
    interpreter.evaluate (.join x) env depth = (v.join, env, interpreter) :=
  runFrame_eq_iff.mpr ⟨Cipher.evaluate_join hx, rfl⟩

theorem evaluate_length_eq (hx : env.get? x = some v) :
    interpreter.evaluate (.length x) env depth = (v.length, env, interpreter) :=
  runFrame_eq_iff.mpr ⟨Cipher.evaluate_length hx, rfl⟩

theorem evaluate_reverse_eq (hx : env.get? x = some v) (hreverse : v.reverse = .ok w) :
    interpreter.evaluate (.reverse x) env depth = (.ok w, env.put x w, interpreter) :=
  runFrame_eq_iff.mpr ⟨Cipher.evaluate_reverse hx hreverse, rfl⟩

theorem evaluate_slice_eq
    (hstart : interpreter.evaluate start env depth = (.ok u, after, next))
    (hn : u.toInt .slice = .ok n) (hx : env.get? x = some v) :
    interpreter.evaluate (.slice x start) env depth = (v.slice n, env, next) := by
  obtain rfl := evaluate_env_of_kind hstart (kind_of_toInt hn)
  obtain ⟨hstart, hnext⟩ := runFrame_eq_iff.mp hstart
  exact runFrame_eq_iff.mpr ⟨Cipher.evaluate_slice hstart hn hx, hnext⟩

/-- A reversal that follows a reversal undoes it. -/
theorem evaluate_reverse_twice {elements : List String} (hx : env.get? x = some (.seq elements)) :
    let once := env.put x (.seq elements.reverse)
    interpreter.evaluate (.reverse x) env depth =
        (.ok (.seq elements.reverse), once, interpreter) ∧
      interpreter.evaluate (.reverse x) once depth = (.ok (.seq elements), env, interpreter) := by
  intro once
  have honce : once.get? x = some (.seq elements.reverse) := by
    rw [Dictionary.get?_put, if_pos rfl]
  have hback : once.put x (.seq elements) = env := by
    rw [Dictionary.put_put, Dictionary.put_of_get? hx]
  have hreverse : (Value.seq elements.reverse).reverse = .ok (.seq elements) := by
    rw [Value.reverse, List.reverse_reverse]
  refine ⟨evaluate_reverse_eq hx rfl, ?_⟩
  rw [evaluate_reverse_eq honce hreverse, hback]

section

variable (hx : env.get? x = some (.str text)) (hy : env.get? y = some (.seq (letters text.toList)))
include hx hy

theorem evaluate_index_of_letters (position : Expr) :
    interpreter.evaluate (.index x position) env depth =
      interpreter.evaluate (.index y position) env depth := by
  have hsame :
      (Expr.index x position).evaluate (interpreter.caller (depth + 1))
          ⟨env, interpreter.programs⟩ =
        (Expr.index y position).evaluate (interpreter.caller (depth + 1))
          ⟨env, interpreter.programs⟩ :=
    evaluate_index_congr hx hy (itemAt_eq_of_letters text) position
  rw [evaluate, evaluate, runFrame, runFrame, hsame]

theorem exists_slices_of_letters
    (hstart : interpreter.evaluate start env depth = (.ok u, after, next))
    (hn : u.toInt .slice = .ok n) :
    ∃ rest, interpreter.evaluate (.slice x start) env depth = (.ok (.str rest), env, next) ∧
      interpreter.evaluate (.slice y start) env depth =
        (.ok (.seq (letters rest.toList)), env, next) ∧
      IsRestFrom n.toInt (letters text.toList) (letters rest.toList) := by
  obtain ⟨rest, hrest, hitems, hfrom⟩ := exists_slices_of_text text n
  refine ⟨rest, ?_, ?_, hfrom⟩
  · rw [evaluate_slice_eq hstart hn hx, hrest]
  · rw [evaluate_slice_eq hstart hn hy, hitems]

end

/-- Splitting a string succeeds.  The string and its letters have the same length, the same items
at all indices, and slices that correspond at all starts; joining the letters gives the string
back, and reversing them twice restores them. -/
theorem strings_behave_like_letters (hx : env.get? x = some (.str text)) :
    let value := fun expr => interpreter.evaluate expr env depth
    ∃ elements, value (.split x) = (.ok (.seq elements), env, interpreter) ∧
      ∀ y, env.get? y = some (.seq elements) →
        (∃ n, value (.length x) = (.ok (.int n), env, interpreter) ∧
          value (.length y) = (.ok (.int n), env, interpreter) ∧
          (text.length < 2 ^ 63 → n.toInt = text.length)) ∧
        (∀ position, value (.index x position) = value (.index y position)) ∧
        (∀ start u n after next, value start = (.ok u, after, next) → u.toInt .slice = .ok n →
          ∃ rest items, value (.slice x start) = (.ok (.str rest), env, next) ∧
            value (.slice y start) = (.ok (.seq items), env, next) ∧
            (∀ z, (interpreter.evaluate (.split z) (env.put z (.str rest)) depth).1 =
              .ok (.seq items)) ∧
            (∀ z, (interpreter.evaluate (.join z) (env.put z (.seq items)) depth).1 =
              .ok (.str rest)) ∧
            IsRestFrom n.toInt elements items) ∧
        value (.join y) = (.ok (.str text), env, interpreter) ∧
        ∃ once, value (.reverse y) = (.ok (.seq elements.reverse), once, interpreter) ∧
          interpreter.evaluate (.reverse y) once depth =
            (.ok (.seq elements), env, interpreter) := by
  intro value
  have hput : ∀ (z : String) (v : Value), (env.put z v).get? z = some v := by
    intro z v
    rw [Dictionary.get?_put, if_pos rfl]
  refine ⟨letters text.toList, ?_, fun y hy => ⟨?_, evaluate_index_of_letters hx hy, ?_, ?_, ?_⟩⟩
  · rw [← split_eq_letters]
    exact evaluate_split_eq hx
  · refine ⟨Value.count text.length, evaluate_length_eq hx, ?_, count_toInt⟩
    rw [← Value.length, ← length_eq_of_letters]
    exact evaluate_length_eq hy
  · intro start u n after next hstart hn
    obtain ⟨rest, hrest, hitems, hfrom⟩ := exists_slices_of_letters hx hy hstart hn
    refine ⟨rest, _, hrest, hitems, ?_, ?_, hfrom⟩
    · intro z
      rw [evaluate_split_eq (hput z _), split_eq_letters]
    · intro z
      rw [evaluate_join_eq (hput z _), join_eq_of_letters]
  · rw [← join_eq_of_letters]
    exact evaluate_join_eq hy
  · exact ⟨_, evaluate_reverse_twice hy⟩

/-- Two letters, of which one takes two bytes, and the smallest of all starts. -/
theorem strings_behave_like_letters_of_accent :
    let interpreter : Interpreter := { script := "" }
    let env : Environment :=
      Dictionary.ofPairs [("x", .str "né"), ("y", .seq ["n", "é"]), ("n", .int Int64.minValue)]
    let value := fun expr => interpreter.evaluate expr env 0
    (value (.split "x")).1 = .ok (.seq ["n", "é"]) ∧
      value (.length "y") = value (.length "x") ∧
      value (.index "x" (.variable "n")) = value (.index "y" (.variable "n")) ∧
      (value (.slice "y" (.variable "n"))).1 = .ok (.seq ["n", "é"]) ∧
      (value (.join "y")).1 = .ok (.str "né") := by
  intro interpreter env value
  obtain ⟨elements, hsplit, hletters⟩ :=
    @strings_behave_like_letters interpreter env 0 "x" "né" rfl
  have helements : (value (.split "x")).1 = .ok (.seq ["n", "é"]) := by decide +kernel
  obtain rfl : ["n", "é"] = elements := by
    rw [show value (.split "x") = _ from hsplit] at helements
    cases helements
    rfl
  obtain ⟨⟨n, hx, hy, -⟩, hindex, hslice, hjoin, -⟩ := hletters "y" rfl
  obtain ⟨rest, items, -, hitems, -, -, hfrom⟩ :=
    hslice (.variable "n") (.int Int64.minValue) Int64.minValue env interpreter rfl rfl
  have hlength : items.length = 2 := hfrom.negative (by decide)
  have hall : items = ["n", "é"] := hfrom.suffix.eq_of_length hlength
  rw [hall] at hitems
  exact ⟨helements, hy.trans hx.symm, hindex _, congrArg Prod.fst hitems, congrArg Prod.fst hjoin⟩

end Interpreter

end StreamLinks.Cipher
