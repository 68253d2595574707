import StreamLinks.Proofs.Cipher.Discipline
import StreamLinks.Proofs.Cipher.Events

/-!
# The elements of sequences

Splitting makes sequences of single characters, and reversing, slicing and handing over keep
elements.  An indexed assignment is all that brings in others: the element that it stores, and
empty ones when the sequence has to grow up to its place.  So a predicate that holds of single
characters, and of what indexed assignments bring in, holds of every element at any time.
-/

namespace StreamLinks.Cipher

variable {α β : Type} {p : String → Prop}

/-- The elements of the value satisfy the predicate. -/
def Value.Admits (p : String → Prop) : Value → Prop
  | .seq items => ∀ item ∈ items, p item
  | _ => True

/-- The elements of all sequences among the variables satisfy the predicate. -/
def Environment.Admits (p : String → Prop) (env : Environment) : Prop :=
  ∀ name v, env.get? name = some v → v.Admits p

/-- What the event brings into a sequence satisfies the predicate. -/
def Event.BringsIn (p : String → Prop) (event : Event) : Prop :=
  (∀ item ∈ event.item?, p item) ∧ (event.grows = true → p "")

/-! ## Replacing elements -/

theorem mem_replaceElement {items : List String} {position : Nat} {item element : String}
    (helement : element ∈ Value.replaceElement items position item) :
    element ∈ items ∨ element = item ∨ element = "" ∧ items.length < position := by
  unfold Value.replaceElement at helement
  obtain ⟨place, hplace, rfl⟩ := List.mem_iff_getElem.mp helement
  rw [List.length_set, List.length_append, List.length_replicate] at hplace
  rw [List.getElem_set]
  by_cases hsame : position = place
  · rw [if_pos hsame]
    exact .inr (.inl rfl)
  · rw [if_neg hsame]
    by_cases hold : place < items.length
    · rw [List.getElem_append_left hold]
      exact .inl (List.getElem_mem hold)
    · rw [List.getElem_append_right (Nat.not_lt.mp hold), List.getElem_replicate]
      exact .inr (.inr ⟨rfl, by omega⟩)

theorem mem_replaceElement_self (items : List String) (position : Nat) (item : String) :
    item ∈ Value.replaceElement items position item := by
  apply List.mem_set
  rw [List.length_append, List.length_replicate]
  omega

/-! ## Operations on values -/

section

variable {v w : Value}

theorem Value.Admits.split (hchars : ∀ c, p (String.ofList [c])) (hw : v.split = .ok w) :
    w.Admits p := by
  cases v with
  | str text =>
      cases hw
      intro item hitem
      obtain ⟨c, -, rfl⟩ := List.mem_map.mp hitem
      exact hchars c
  | int n => cases hw
  | seq items => cases hw

theorem Value.Admits.reverse (hv : v.Admits p) (hw : v.reverse = .ok w) : w.Admits p := by
  cases v with
  | seq items =>
      cases hw
      intro item hitem
      exact hv item (List.mem_reverse.mp hitem)
  | int n => cases hw
  | str text => cases hw

theorem Value.Admits.slice {start : Int64} (hv : v.Admits p) (hw : v.slice start = .ok w) :
    w.Admits p := by
  cases v with
  | seq items =>
      cases hw
      intro item hitem
      exact hv item (List.mem_of_mem_drop hitem)
  | str text =>
      cases hw
      trivial
  | int n => cases hw

theorem Value.Admits.join (hw : v.join = .ok w) : w.Admits p := by
  cases v with
  | seq items =>
      cases hw
      trivial
  | int n => cases hw
  | str text => cases hw

theorem Value.Admits.length (hw : v.length = .ok w) : w.Admits p := by
  cases v with
  | int n => cases hw
  | str text =>
      cases hw
      trivial
  | seq items =>
      cases hw
      trivial

theorem Value.Admits.itemAt {index : Int64} (hw : v.itemAt index = .ok w) : w.Admits p := by
  cases v with
  | int n => cases hw
  | str text =>
      obtain ⟨c, -, rfl⟩ := map_eq_ok.mp hw
      trivial
  | seq items =>
      obtain ⟨item, -, rfl⟩ := map_eq_ok.mp hw
      trivial

theorem Value.Admits.remainder {m n : Int64} (hw : Value.remainder m n = .ok w) :
    w.Admits p := by
  unfold Value.remainder at hw
  split at hw
  · cases hw
  · cases hw
    trivial

end

theorem Environment.Admits.put {env : Environment} (henv : env.Admits p) {name : String}
    {v : Value} (hv : v.Admits p) : Environment.Admits p (env.put name v) := by
  intro other w hw
  rw [Dictionary.get?_put] at hw
  split at hw
  · cases hw
    exact hv
  · exact henv other w hw

theorem Environment.Admits.opened {env : Environment} (henv : env.Admits p) (target : String) :
    (env.opened target).Admits p := by
  unfold Environment.opened
  split
  · exact henv.put (by simp [Value.Admits])
  · exact henv

theorem Environment.Admits.bind {params : List String} {args : List Value}
    (hargs : ∀ v ∈ args, v.Admits p) : (Environment.bind params args).Admits p :=
  fun _ v hv => hargs v (Environment.get?_bind_mem hv)

theorem Event.env_admits {env : Environment} {target item : String} {items : List String}
    {position : Nat} (henv : env.Admits p) (hitems : env.get? target = some (.seq items))
    (hevent : (Event.stored env target items position item).BringsIn p) :
    (Event.stored env target items position item).env.Admits p := by
  apply henv.put
  intro element helement
  rcases mem_replaceElement helement with hold | rfl | ⟨rfl, hgrows⟩
  · exact henv target _ hitems element hold
  · exact hevent.1 element rfl
  · exact hevent.2 (decide_eq_true hgrows)

theorem Environment.Admits.storing {env : Environment} (henv : env.Admits p) {target : String}
    {index : Int64} {item : String}
    (hevents : ∀ event ∈ env.storing target index item, event.BringsIn p) :
    (env.writeAt target index item).2.Admits p ∧
      ∀ event ∈ env.storing target index item, event.env.Admits p := by
  have hopened := henv.opened target
  unfold Environment.storing at hevents ⊢
  unfold Environment.writeAt
  by_cases hindex : index.toInt < 0
  · rw [if_pos hindex, if_pos hindex]
    exact ⟨henv, by simp⟩
  · rw [if_neg hindex] at hevents ⊢
    rw [if_neg hindex]
    rw [List.forall_mem_cons] at hevents ⊢
    cases hget : (env.opened target).get? target with
    | none => exact ⟨hopened, hopened, by simp⟩
    | some found =>
        cases found with
        | int n => exact ⟨hopened, hopened, by simp⟩
        | str text => exact ⟨hopened, hopened, by simp⟩
        | seq items =>
            rw [hget] at hevents
            dsimp only at hevents ⊢
            split
            next hlong => exact ⟨hopened, hopened, by simp⟩
            next hfits =>
              rw [if_neg hfits, List.forall_mem_singleton] at hevents
              have hstored := Event.env_admits hopened hget hevents.2
              exact ⟨hstored, hopened, List.forall_mem_singleton.mpr hstored⟩

/-! ## Computations and their events -/

/-- Started with variables that admit the predicate, and as long as what events bring in does
so too, the computation passes only through such variables. -/
def Fits (p : String → Prop) (run : Run α) (events : Frame → List Event) (post : α → Prop) :
    Prop :=
  ∀ frame, frame.env.Admits p → (∀ event ∈ events frame, event.BringsIn p) →
    (run frame).2.env.Admits p ∧ (∀ event ∈ events frame, event.env.Admits p) ∧
      ∀ a, (run frame).1 = .ok a → post a

namespace Fits

variable {run : Run α} {next : α → Run β} {events : Frame → List Event}
  {events' : α → Frame → List Event} {post : α → Prop} {post' : β → Prop}

theorem lift {x : Except Error α} (hx : ∀ a, x = .ok a → post a) :
    Fits p (liftM x) (fun _ => []) post :=
  fun _ henv _ => ⟨henv, by simp, hx⟩

theorem lift_any (x : Except Error α) : Fits p (liftM x) (fun _ => []) fun _ => True :=
  lift fun _ _ => trivial

theorem pure {a : α} (ha : post a) : Fits p (Pure.pure a) (fun _ => []) post := by
  intro frame henv _
  refine ⟨henv, by simp, ?_⟩
  intro b hb
  cases hb
  exact ha

theorem throw (e : Error) : Fits p (MonadExcept.throw e : Run α) (fun _ => []) post := by
  intro frame henv _
  refine ⟨henv, by simp, ?_⟩
  intro b hb
  cases hb

theorem bind (hrun : Fits p run events post)
    (hnext : ∀ a, post a → Fits p (next a) (events' a) post') :
    Fits p (run >>= next) (fun frame => events frame ++ run.followed events' frame) post' := by
  intro frame henv hstores
  rw [List.forall_mem_append] at hstores
  obtain ⟨hafter, hevents, hresult⟩ := hrun frame henv hstores.1
  rcases hcase : run frame with ⟨result, after⟩
  rw [hcase] at hafter hresult
  cases result with
  | error e =>
      have hnone : run.followed events' frame = [] := by rw [Run.followed, hcase]
      rw [bind_apply_of_error hcase]
      dsimp only
      rw [hnone, List.append_nil]
      refine ⟨hafter, hevents, ?_⟩
      intro b hb
      cases hb
  | ok a =>
      have hfollowed : run.followed events' frame = events' a after := by
        rw [Run.followed, hcase]
      rw [hfollowed] at hstores
      obtain ⟨hlast, hothers, hend⟩ := hnext a (hresult a rfl) after hafter hstores.2
      rw [bind_apply_of_ok hcase]
      dsimp only
      rw [hfollowed]
      exact ⟨hlast, List.forall_mem_append.mpr ⟨hevents, hothers⟩, hend⟩

/-- Nothing happens in the first part. -/
theorem bind_events (hrun : Fits p run (fun _ => []) post)
    (hnext : ∀ a, post a → Fits p (next a) (events' a) post') :
    Fits p (run >>= next) (run.followed events') post' :=
  hrun.bind hnext

/-- Nothing happens in the second part. -/
theorem bind_silent (hrun : Fits p run events post)
    (hnext : ∀ a, post a → Fits p (next a) (fun _ => []) post') :
    Fits p (run >>= next) events post' := by
  have hnone : ∀ frame, run.followed (fun _ _ => []) frame = [] := by
    intro frame
    unfold Run.followed
    split <;> rfl
  have hboth := hrun.bind hnext
  simpa only [hnone, List.append_nil] using hboth

/-- The variables in the end may be listed. -/
theorem ending (hrun : Fits p run events post) :
    Fits p run (fun frame => events frame ++ [.reached (run frame).2.env]) post := by
  intro frame henv hstores
  rw [List.forall_mem_append] at hstores
  obtain ⟨hafter, hevents, hresult⟩ := hrun frame henv hstores.1
  exact ⟨hafter, List.forall_mem_append.mpr ⟨hevents, List.forall_mem_singleton.mpr hafter⟩,
    hresult⟩

theorem read (name : String) : Fits p (Run.read name) (fun _ => []) (Value.Admits p) := by
  intro frame henv _
  refine ⟨henv, by simp, ?_⟩
  intro v hv
  rw [Run.read_apply] at hv
  exact henv name v (Environment.read_eq_ok.mp hv)

theorem write (name : String) {v : Value} (hv : v.Admits p) :
    Fits p (Run.write name v) (fun _ => []) fun _ => True :=
  fun _ henv _ => ⟨henv.put hv, by simp, fun _ _ => trivial⟩

theorem writeAt (target : String) (index : Int64) (item : String) :
    Fits p (Run.writeAt target index item) (fun frame => frame.env.storing target index item)
      fun _ => True := by
  intro frame henv hevents
  obtain ⟨hafter, hshown⟩ := henv.storing hevents
  rw [Run.writeAt_apply]
  exact ⟨hafter, hshown, fun _ _ => trivial⟩

end Fits

/-! ## Evaluation -/

/-- Calls with arguments that admit the predicate pass only through such variables, as long as
what events bring in admits it, and answer with such a value. -/
def Caller.Fits (p : String → Prop) (call : Caller) (watch : Watcher) : Prop :=
  ∀ name args programs, (∀ v ∈ args, v.Admits p) →
    (∀ event ∈ watch name args programs, event.BringsIn p) →
    (∀ event ∈ watch name args programs, event.env.Admits p) ∧
      ∀ v, (call name args programs).1 = .ok v → v.Admits p

section

variable {call : Caller} {watch : Watcher}

theorem fits_args (args : List Arg) :
    Fits p (args.mapM Arg.evaluate) (fun _ => []) fun values => ∀ v ∈ values, v.Admits p := by
  induction args with
  | nil => exact .pure (by simp)
  | cons arg args ih =>
      have harg : Fits p arg.evaluate (fun _ => []) (Value.Admits p) := by
        cases arg with
        | literal n => exact .pure trivial
        | «variable» name => exact .read name
      rw [List.mapM_cons]
      refine harg.bind_silent fun v hv => ih.bind_silent fun values hvalues => .pure ?_
      exact List.forall_mem_cons.mpr ⟨hv, hvalues⟩

theorem Expr.evaluate_fits (hcall : call.Fits p watch) (hchars : ∀ c, p (String.ofList [c]))
    (expr : Expr) : Fits p (expr.evaluate call) (expr.events call watch) (Value.Admits p) := by
  induction expr with
  | literal n => exact Fits.ending (.pure trivial)
  | «variable» name => exact Fits.ending (.read name)
  | split object =>
      exact Fits.ending ((Fits.read object).bind_silent fun v _ => .lift fun w hw => .split hchars hw)
  | reverse object =>
      refine Fits.ending ((Fits.read object).bind_silent fun v hv => ?_)
      refine (Fits.lift fun w hw => hv.reverse hw).bind_silent fun reversed hreversed => ?_
      exact (Fits.write object hreversed).bind_silent fun _ _ => .pure hreversed
  | join object =>
      exact Fits.ending ((Fits.read object).bind_silent fun v _ => .lift fun w hw => .join hw)
  | length object =>
      exact Fits.ending ((Fits.read object).bind_silent fun v _ => .lift fun w hw => .length hw)
  | slice object start ih =>
      refine Fits.ending (ih.bind_silent fun u _ => ?_)
      refine (Fits.lift_any _).bind_silent fun start _ => ?_
      exact (Fits.read object).bind_silent fun v hv => .lift fun w hw => hv.slice hw
  | index object position ih =>
      refine Fits.ending (ih.bind_silent fun u _ => ?_)
      refine (Fits.lift_any _).bind_silent fun index _ => ?_
      exact (Fits.read object).bind_silent fun v _ => .lift fun w hw => .itemAt hw
  | modulo dividend divisor ihDividend ihDivisor =>
      refine Fits.ending (ihDividend.bind fun u _ => ?_)
      refine (Fits.lift_any _).bind_events fun m _ => ?_
      refine ihDivisor.bind_silent fun v _ => ?_
      exact (Fits.lift_any _).bind_silent fun n _ => .lift fun w hw => .remainder hw
  | call function args =>
      refine Fits.ending ((fits_args args).bind_events fun values hvalues => ?_)
      intro frame henv hevents
      obtain ⟨hshown, hresult⟩ := hcall function values frame.programs hvalues hevents
      exact ⟨henv, hshown, hresult⟩

theorem Statement.execute_fits (hcall : call.Fits p watch)
    (hchars : ∀ c, p (String.ofList [c])) (statement : Statement) :
    Fits p (statement.execute call) (statement.events call watch)
      fun result => ∀ v ∈ result, v.Admits p := by
  cases statement with
  | ret value =>
      refine Fits.ending ((value.evaluate_fits hcall hchars).bind_silent fun v hv => .pure ?_)
      simpa using hv
  | assign target value =>
      refine Fits.ending ((value.evaluate_fits hcall hchars).bind_silent fun v hv => ?_)
      exact (Fits.write target hv).bind_silent fun _ _ => .pure (by simp)
  | assignAt target position value =>
      refine Fits.ending ((value.evaluate_fits hcall hchars).bind fun v _ => ?_)
      refine (position.evaluate_fits hcall hchars).bind fun u _ => ?_
      refine (Fits.lift_any _).bind_events fun index _ => ?_
      refine (Fits.lift_any _).bind_events fun item _ => ?_
      exact (Fits.writeAt target index item).bind_silent fun _ _ => .pure (by simp)

theorem executeAll_fits (hcall : call.Fits p watch) (hchars : ∀ c, p (String.ofList [c]))
    (body : List Statement) :
    Fits p (executeAll call body) (eventsOfAll call watch body)
      fun result => ∀ v ∈ result, v.Admits p := by
  induction body with
  | nil => exact .pure (by simp)
  | cons statement rest ih =>
      refine (statement.execute_fits hcall hchars).bind fun result hresult => ?_
      cases result with
      | some v => exact .pure hresult
      | none => exact ih

theorem Function.run_fits (hcall : call.Fits p watch) (hchars : ∀ c, p (String.ofList [c]))
    (function : Function) :
    Fits p (function.run call) (eventsOfAll call watch function.body) (Value.Admits p) := by
  refine (executeAll_fits hcall hchars function.body).bind_silent fun result hresult => ?_
  cases result with
  | some v => exact .pure (hresult v rfl)
  | none => exact .throw _

end

theorem callWithin_fits (hchars : ∀ c, p (String.ofList [c])) (script : String)
    (limit frames : Nat) :
    (callWithin script limit frames).Fits p (eventsWithin script limit frames) := by
  induction frames with
  | zero =>
      intro name args programs _ _
      refine ⟨by simp [eventsWithin], ?_⟩
      intro v hv
      cases hv
  | succ frames ih =>
      intro name args programs hargs hevents
      rw [callWithin_succ]
      unfold eventsWithin at hevents ⊢
      rcases hprogram : program script name programs with ⟨result, after⟩
      rw [hprogram] at hevents
      cases result with
      | error e =>
          refine ⟨by simp, ?_⟩
          intro v hv
          cases hv
      | ok function =>
          have hbound : (Environment.bind function.params args).Admits p := .bind hargs
          dsimp only at hevents ⊢
          rw [List.forall_mem_cons] at hevents ⊢
          rw [Session.inFrame_apply]
          obtain ⟨-, hshown, hresult⟩ := function.run_fits ih hchars _ hbound hevents.2
          exact ⟨⟨hbound, hshown⟩, hresult⟩

/-! ## The elements that occur -/

/-- The sequence is held by a variable after one of the events. -/
def HoldsSeq (events : List Event) (items : List String) : Prop :=
  ∃ event ∈ events, ∃ name, event.env.get? name = some (.seq items)

def Occurs (events : List Event) (element : String) : Prop :=
  ∃ items, HoldsSeq events items ∧ element ∈ items

def IsStored (events : List Event) (item : String) : Prop :=
  item ∈ events.filterMap Event.item?

def HasGrown (events : List Event) : Prop :=
  ∃ event ∈ events, event.grows = true

instance (events : List Event) (item : String) : Decidable (IsStored events item) :=
  inferInstanceAs (Decidable (_ ∈ _))

instance (events : List Event) : Decidable (HasGrown events) :=
  inferInstanceAs (Decidable (∃ event ∈ events, _))

variable {events : List Event} {item element : String}

theorem occurs_of_isStored (hstored : IsStored events item) : Occurs events item := by
  obtain ⟨event, hevent, hitem⟩ := List.mem_filterMap.mp hstored
  cases event with
  | reached env => cases hitem
  | stored env target items position other =>
      cases hitem
      refine ⟨Value.replaceElement items position item, ⟨_, hevent, target, ?_⟩,
        mem_replaceElement_self items position item⟩
      rw [Event.env, Dictionary.get?_put, if_pos rfl]

theorem empty_mem_replaceElement {items : List String} {position : Nat}
    (hgrows : items.length < position) (item : String) :
    "" ∈ Value.replaceElement items position item := by
  unfold Value.replaceElement
  have hplace : items.length <
      ((items ++ List.replicate (position + 1 - items.length) "").set position item).length := by
    rw [List.length_set, List.length_append, List.length_replicate]
    omega
  rw [List.mem_iff_getElem]
  refine ⟨items.length, hplace, ?_⟩
  rw [List.getElem_set_ne (by omega), List.getElem_append_right (Nat.le_refl _),
    List.getElem_replicate]

theorem occurs_of_hasGrown (hgrown : HasGrown events) : Occurs events "" := by
  obtain ⟨event, hevent, hgrows⟩ := hgrown
  cases event with
  | reached env => cases hgrows
  | stored env target items position item =>
      refine ⟨Value.replaceElement items position item, ⟨_, hevent, target, ?_⟩,
        empty_mem_replaceElement (of_decide_eq_true hgrows) item⟩
      rw [Event.env, Dictionary.get?_put, if_pos rfl]

/-- Of elements with at most one character the empty ones are all that joining leaves out. -/
theorem length_join {items : List String} (hitems : ∀ item ∈ items, item.length ≤ 1) :
    items.length = (String.join items).length + items.count "" := by
  induction items with
  | nil => rfl
  | cons item items ih =>
      rw [List.forall_mem_cons] at hitems
      have hrest := ih hitems.2
      rw [String.join_cons, String.length_append, List.length_cons, List.count_cons]
      by_cases hempty : item = ""
      · rw [hempty, beq_self_eq_true, if_pos rfl]
        have hnone : "".length = 0 := rfl
        omega
      · have hlength : item.length ≠ 0 := fun hzero => hempty (String.length_eq_zero_iff.mp hzero)
        have hone := hitems.1
        rw [beq_eq_false_iff_ne.mpr hempty, if_neg Bool.false_ne_true]
        omega

namespace Interpreter

theorem admits_of_events {interpreter : Interpreter} {name scrambled : String}
    (hchars : ∀ c, p (String.ofList [c]))
    (hevents : ∀ event ∈ interpreter.events name scrambled, event.BringsIn p)
    (hoccurs : Occurs (interpreter.events name scrambled) element) : p element := by
  obtain ⟨items, ⟨event, hevent, name, hitems⟩, helement⟩ := hoccurs
  have hargs : ∀ v ∈ [Value.str scrambled], v.Admits p := by simp [Value.Admits]
  obtain ⟨hshown, -⟩ := callWithin_fits hchars interpreter.script interpreter.maxDepth _ _ _
    interpreter.programs hargs hevents
  exact hshown event hevent name _ hitems element helement

/-- Every element that occurs is a single character, or an event has brought it in. -/
theorem source_of_occurs {interpreter : Interpreter} {name scrambled : String}
    (hoccurs : Occurs (interpreter.events name scrambled) element) :
    element.length = 1 ∨ IsStored (interpreter.events name scrambled) element ∨
      element = "" ∧ HasGrown (interpreter.events name scrambled) := by
  revert hoccurs
  apply admits_of_events
    (p := fun element => element.length = 1 ∨
      IsStored (interpreter.events name scrambled) element ∨
        element = "" ∧ HasGrown (interpreter.events name scrambled))
  · intro c
    left
    simp
  · intro event hevent
    constructor
    · intro item hitem
      exact .inr (.inl (List.mem_filterMap.mpr ⟨event, hevent, hitem⟩))
    · intro hgrows
      exact .inr (.inr ⟨rfl, event, hevent, hgrows⟩)

/-- While a text is deciphered, the elements of sequences that are no single characters are those
that indexed assignments store, and the empty ones that let a sequence grow.  So all elements
have at most one character exactly if the stored ones do. -/
theorem elements_of_decipher (interpreter : Interpreter) (name scrambled : String) :
    let events := interpreter.events name scrambled
    (∀ element : String, element.length ≠ 1 →
      (Occurs events element ↔ IsStored events element ∨ element = "" ∧ HasGrown events)) ∧
    ((∀ element, Occurs events element → element.length ≤ 1) ↔
      ∀ item, IsStored events item → item.length ≤ 1) ∧
    ((∀ item, IsStored events item → item.length ≤ 1) → ∀ items, HoldsSeq events items →
      items.length = (String.join items).length + items.count "") := by
  intro events
  have hshort : (∀ item, IsStored events item → item.length ≤ 1) →
      ∀ element, Occurs events element → element.length ≤ 1 := by
    intro hstored element hoccurs
    rcases source_of_occurs hoccurs with hone | hitem | ⟨rfl, -⟩
    · exact Nat.le_of_eq hone
    · exact hstored element hitem
    · exact Nat.zero_le 1
  refine ⟨?_, ⟨?_, hshort⟩, ?_⟩
  · intro element hlong
    constructor
    · intro hoccurs
      exact (source_of_occurs hoccurs).resolve_left hlong
    · rintro (hstored | ⟨rfl, hgrown⟩)
      · exact occurs_of_isStored hstored
      · exact occurs_of_hasGrown hgrown
  · intro hall item hstored
    exact hall item (occurs_of_isStored hstored)
  · intro hstored items hitems
    apply length_join
    intro item hitem
    exact hshort hstored item ⟨items, hitems, hitem⟩

/-- A sequence grows by an empty element and one that it had already. -/
theorem elements_of_decipher_of_growth :
    let script := "function f(a)\x7bb=a.split(\"\");b[3]=b[0];return b.join(\"\")\x7d"
    let events := Interpreter.events { script } "f" "xy"
    let grown := ["x", "y", "", "x"]
    Occurs events "" ∧ (∀ element, Occurs events element → element.length ≤ 1) ∧
      HoldsSeq events grown ∧ grown.length = (String.join grown).length + grown.count "" := by
  intro script events grown
  have hstored : ∀ item, IsStored events item → item.length ≤ 1 := by
    have hlist : ∀ item ∈ events.filterMap Event.item?, item.length ≤ 1 := by decide +kernel
    exact hlist
  have hgrown : HasGrown events := by decide +kernel
  have hholds : HoldsSeq events grown := by
    have hevent : ∃ event ∈ events, event.env.get? "b" = some (.seq grown) := by decide +kernel
    obtain ⟨event, hmem, hget⟩ := hevent
    exact ⟨event, hmem, "b", hget⟩
  obtain ⟨hothers, hshort, hlength⟩ := elements_of_decipher { script } "f" "xy"
  exact ⟨(hothers "" (by decide)).mpr (.inr ⟨rfl, hgrown⟩), hshort.mpr hstored, hholds,
    hlength hstored grown hholds⟩

/-- An indexed assignment stores any string, and then a sequence and its elements joined differ
in length although no element is empty. -/
theorem longer_elements_occur :
    let script := "function f(a)\x7bb=a.split(\"\");b[0]=a;c=b.join(\"\");" ++
      "d=c.length%b.length;return a[d]\x7d"
    HoldsSeq (Interpreter.events { script } "f" "ab") ["ab", "b"] ∧
      (String.join ["ab", "b"]).length = 3 ∧ ["ab", "b"].count "" = 0 ∧
      (Interpreter.decipher { script } "f" "ab").1 = .ok "b" := by
  intro script
  have hevent : ∃ event ∈ Interpreter.events { script } "f" "ab",
      event.env.get? "b" = some (.seq ["ab", "b"]) := by decide +kernel
  obtain ⟨event, hmem, hget⟩ := hevent
  exact ⟨⟨event, hmem, "b", hget⟩, by decide +kernel, by decide, by decide +kernel⟩

end Interpreter

end StreamLinks.Cipher
