import StreamLinks.Proofs.Cipher.Reversing

/-!
# Indexed assignment

An indexed assignment writes one element of a sequence.  Places below the limit can always be
written, and a sequence that ends before is lengthened by empty elements.  Places from the limit
on are refused, also those that a longer sequence already has.
-/

namespace StreamLinks.Cipher

/-- The variable holds the sequence, or is unbound and stands for the empty one. -/
def Environment.StandsFor (env : Environment) (target : String) (items : List String) : Prop :=
  env.get? target = some (.seq items) ∨ env.get? target = none ∧ items = []

/-- The elements `written` are `items` with `item` in the place `position`, behind empty elements
if there was no such place. -/
structure IsWritten (items : List String) (position : Nat) (item : String)
    (written : List String) : Prop where
  length : written.length = max items.length (position + 1)
  item : written[position]? = some item
  old : ∀ place < items.length, place ≠ position → written[place]? = items[place]?
  new : ∀ place < position, items.length ≤ place → written[place]? = some ""

/-- The variables `after` are those of `env` with an element of one sequence written. -/
structure Environment.Writes (env : Environment) (target : String) (items : List String)
    (position : Nat) (item : String) (after : Environment) : Prop where
  sequence : ∃ written, after.get? target = some (.seq written) ∧
    IsWritten items position item written
  others : ∀ other, other ≠ target → after.get? other = env.get? other

variable {env : Environment} {target item : String} {items : List String} {index : Int64}
  {v w : Value}

/-! ## Elements -/

theorem length_extended (items : List String) (position : Nat) :
    (items ++ List.replicate (position + 1 - items.length) "").length =
      max items.length (position + 1) := by
  rw [List.length_append, List.length_replicate]
  omega

theorem isWritten_replaceElement (items : List String) (position : Nat) (item : String) :
    IsWritten items position item (Value.replaceElement items position item) where
  length := by rw [Value.replaceElement, List.length_set, length_extended]
  item := by
    have hplace : position < max items.length (position + 1) := by omega
    rw [← length_extended] at hplace
    exact List.getElem?_set_self hplace
  old := by
    intro place hplace hother
    rw [Value.replaceElement, List.getElem?_set_ne (Ne.symm hother),
      List.getElem?_append_left hplace]
  new := by
    intro place hplace hnew
    have hcreated : place - items.length < position + 1 - items.length := by omega
    rw [Value.replaceElement, List.getElem?_set_ne (Nat.ne_of_gt hplace),
      List.getElem?_append_right hnew, List.getElem?_replicate, if_pos hcreated]

/-- What is written is read back. -/
theorem IsWritten.itemAt {written : List String}
    (hwritten : IsWritten items index.toInt.toNat item written) (hindex : 0 ≤ index.toInt) :
    (Value.seq written).itemAt index = .ok (.str item) := by
  have hnonneg : ¬ index.toInt < 0 := by omega
  simp only [Value.itemAt, Value.elementAt, if_neg hnonneg, hwritten.item]
  rfl

/-! ## Variables -/

theorem Environment.StandsFor.get?_opened (htarget : env.StandsFor target items) :
    (env.opened target).get? target = some (.seq items) := by
  rcases htarget with hbound | ⟨hunbound, rfl⟩
  · rwa [opened_of_bound hbound]
  · rw [opened_of_unbound hunbound]
    exact (Dictionary.get?_put _ _ _ _).trans (if_pos rfl)

theorem writeAt_of_negative (hindex : index.toInt < 0) :
    env.writeAt target index item = (.error (.indexOutOfRange index 0), env) := by
  rw [Environment.writeAt, if_pos hindex]

theorem writeAt_of_limit (htarget : env.StandsFor target items)
    (hindex : (Value.maxGrownLength : Int) ≤ index.toInt) :
    env.writeAt target index item =
      (.error (.indexOutOfRange index items.length), env.opened target) := by
  have hnonneg : ¬ index.toInt < 0 := by omega
  have hlimit : Value.maxGrownLength ≤ index.toInt.toNat := by omega
  rw [Environment.writeAt, if_neg hnonneg, htarget.get?_opened]
  exact if_pos hlimit

theorem writeAt_of_room (htarget : env.StandsFor target items) (hnonneg : 0 ≤ index.toInt)
    (hroom : index.toInt < Value.maxGrownLength) :
    env.writeAt target index item =
      (.ok (), (env.opened target).put target
        (.seq (Value.replaceElement items index.toInt.toNat item))) := by
  have hindex : ¬ index.toInt < 0 := by omega
  have hlimit : ¬ Value.maxGrownLength ≤ index.toInt.toNat := by omega
  rw [Environment.writeAt, if_neg hindex, htarget.get?_opened]
  exact if_neg hlimit

theorem Environment.writes_put_opened (env : Environment) (target : String) (items : List String)
    (position : Nat) (item : String) :
    env.Writes target items position item
      ((env.opened target).put target (.seq (Value.replaceElement items position item))) where
  sequence := by
    refine ⟨_, ?_, isWritten_replaceElement items position item⟩
    rw [Dictionary.get?_put, if_pos rfl]
  others := by
    intro other hother
    rw [Dictionary.get?_put, if_neg hother, get?_opened_of_ne env hother]

/-! ## Statements -/

theorem Value.toElement_of_kind (hkind : v.kind ≠ .sequence) : v.toElement = .ok v.text := by
  cases v with
  | int n => rfl
  | str text => rfl
  | seq items => exact absurd rfl hkind

/-- A value that is no sequence does not come from a reversal, so no variable has changed. -/
theorem Expr.evaluate_env_of_kind {call : Caller} {expr : Expr} {frame after : Frame}
    (hvalue : expr.evaluate call frame = (.ok v, after)) (hkind : v.kind ≠ .sequence) :
    after.env = frame.env := by
  refine Expr.evaluate_env_of_ok ?_ hvalue
  rintro object rfl
  rcases evaluate_reverse_outcome call object frame with ⟨items, -, hok⟩ | ⟨⟨e, herror⟩, -⟩
  · rw [hvalue] at hok
    cases hok
    exact hkind rfl
  · rw [hvalue] at herror
    cases herror

theorem kind_of_toInt {operation : Operation} (hindex : v.toInt operation = .ok index) :
    v.kind ≠ .sequence := by
  cases v with
  | int n => simp [Value.kind]
  | str text => simp [Value.kind]
  | seq items => cases hindex

namespace Interpreter

section

variable {interpreter next : Interpreter} {env after : Environment} {depth : Nat}
  {expr : Expr} {v w : Value}

theorem evaluate_env_of_kind
    (hevaluate : interpreter.evaluate expr env depth = (.ok v, after, next))
    (hkind : v.kind ≠ .sequence) : after = env :=
  Expr.evaluate_env_of_kind (runFrame_eq_iff.mp hevaluate).1 hkind

theorem evaluate_index_of_itemAt {object : String} {index : Int64} {held : Value}
    (hevaluate : interpreter.evaluate expr env depth = (.ok v, after, next))
    (hindex : v.toInt .index = .ok index) (hheld : env.get? object = some held)
    (hitem : held.itemAt index = .ok w) :
    interpreter.evaluate (.index object expr) env depth = (.ok w, env, next) := by
  obtain rfl := evaluate_env_of_kind hevaluate (kind_of_toInt hindex)
  obtain ⟨hevaluate, hnext⟩ := runFrame_eq_iff.mp hevaluate
  refine runFrame_eq_iff.mpr ⟨?_, hnext⟩
  rw [evaluate_index hevaluate hindex hheld, hitem]

theorem execute_assignAt_eq {middle last : Interpreter} {target item : String} {index : Int64}
    {position value : Expr} (hvalue : interpreter.evaluate value env depth = (.ok v, env, middle))
    (hposition : middle.evaluate position env depth = (.ok w, env, last))
    (hindex : w.toInt .indexedAssignment = .ok index) (hitem : v.toElement = .ok item) :
    interpreter.execute (.assignAt target position value) env depth =
      ((fun _ => none) <$> (env.writeAt target index item).1,
        (env.writeAt target index item).2, last) := by
  obtain ⟨hvalue, hmiddle⟩ := runFrame_eq_iff.mp hvalue
  obtain ⟨hposition, hlast⟩ := runFrame_eq_iff.mp hposition
  rw [hmiddle] at hposition hlast
  refine runFrame_eq_iff.mpr ⟨?_, hlast⟩
  exact execute_assignAt_of_ok (placeAndItem_of_ok hvalue hposition hindex hitem)

end

/-- An indexed assignment of a string or an integer writes its text into the sequence of the
target, and leaves everything else as it is, for all places below the limit.  A negative place is
refused, and so is every place from the limit on, even where the sequence is longer. -/
theorem indexed_assignment_writes {interpreter middle last : Interpreter} {env₁ env₂ : Environment}
    {depth : Nat} {position value : Expr}
    (hvalue : interpreter.evaluate value env depth = (.ok v, env₁, middle))
    (hkind : v.kind ≠ .sequence)
    (hposition : middle.evaluate position env₁ depth = (.ok w, env₂, last))
    (hindex : w.toInt .indexedAssignment = .ok index) (htarget : env.StandsFor target items) :
    let outcome := interpreter.execute (.assignAt target position value) env depth
    (index.toInt < 0 → outcome.1 = .error (.indexOutOfRange index 0)) ∧
    (Value.maxGrownLength ≤ index.toInt →
      outcome.1 = .error (.indexOutOfRange index items.length)) ∧
    (0 ≤ index.toInt → index.toInt < Value.maxGrownLength →
      outcome.1 = .ok none ∧
      env.Writes target items index.toInt.toNat v.text outcome.2.1 ∧
      ∀ (reader reader' : Interpreter) (place : Expr) (u : Value) (after : Environment)
        (depth' : Nat),
        reader.evaluate place outcome.2.1 depth' = (.ok u, after, reader') →
        u.toInt .index = .ok index →
          reader.evaluate (.index target place) outcome.2.1 depth' =
            (.ok (.str v.text), outcome.2.1, reader')) := by
  intro outcome
  obtain rfl := evaluate_env_of_kind hvalue hkind
  obtain rfl := evaluate_env_of_kind hposition (kind_of_toInt hindex)
  have houtcome : outcome = ((fun _ => none) <$> (env₂.writeAt target index v.text).1,
      (env₂.writeAt target index v.text).2, last) :=
    execute_assignAt_eq hvalue hposition hindex (Value.toElement_of_kind hkind)
  rw [houtcome]
  refine ⟨?_, ?_, ?_⟩
  · intro hnegative
    rw [writeAt_of_negative hnegative]
    rfl
  · intro hlimit
    rw [writeAt_of_limit htarget hlimit]
    rfl
  · intro hnonneg hroom
    rw [writeAt_of_room htarget hnonneg hroom]
    have hwrites := env₂.writes_put_opened target items index.toInt.toNat v.text
    refine ⟨rfl, hwrites, ?_⟩
    intro reader reader' place u after depth' hplace hu
    obtain ⟨written, hheld, hwritten⟩ := hwrites.sequence
    exact evaluate_index_of_itemAt hplace hu hheld (hwritten.itemAt hnonneg)

/-- The sequence of two elements gets a fourth one. -/
theorem indexed_assignment_writes_of_growth :
    let env : Environment := Dictionary.ofPairs [("t", .seq ["x", "y"]), ("v", .int 7)]
    let outcome := Interpreter.execute { script := "" } (.assignAt "t" (.literal 3) (.variable "v"))
      env 0
    outcome.1 = .ok none ∧ env.Writes "t" ["x", "y"] 3 "7" outcome.2.1 ∧
      outcome.2.1.get? "t" = some (.seq ["x", "y", "", "7"]) := by
  intro env outcome
  have hwrites := @indexed_assignment_writes env "t" ["x", "y"] 3 (.int 7) (.int 3)
    { script := "" } { script := "" } { script := "" } env env 0 (.literal 3) (.variable "v")
    rfl (by decide) rfl rfl (.inl rfl)
  obtain ⟨hok, hafter, -⟩ := hwrites.2.2 (by decide) (by decide)
  exact ⟨hok, hafter, by decide +kernel⟩

/-- A place that a long sequence has is refused when the limit lies below it. -/
theorem places_behind_limit_are_refused :
    let items := List.replicate 65537 "x"
    let env : Environment :=
      Dictionary.ofPairs [("t", .seq items), ("i", .int 65536), ("v", .str "z")]
    parseStatement "t[i]=v" = .ok (.assignAt "t" (.variable "i") (.variable "v")) ∧
      (65536 : Int64).toInt < items.length ∧
      (Interpreter.execute { script := "" } (.assignAt "t" (.variable "i") (.variable "v"))
        env 0).1 = .error (.indexOutOfRange 65536 65537) := by
  intro items env
  have hlength : items.length = 65537 := List.length_replicate
  have htarget : env.StandsFor "t" items := .inl rfl
  have hlimit : (Value.maxGrownLength : Int) ≤ (65536 : Int64).toInt := by decide
  refine ⟨by decide +kernel, by rw [hlength]; decide, ?_⟩
  rw [execute_assignAt_eq (v := .str "z") (w := .int 65536) rfl rfl rfl rfl,
    writeAt_of_limit htarget hlimit, hlength]
  rfl

end Interpreter

end StreamLinks.Cipher
