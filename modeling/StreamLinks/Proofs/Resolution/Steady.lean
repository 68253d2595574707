import StreamLinks.Client
import StreamLinks.Proofs.Resolution.Course
import StreamLinks.Resolution.Streams

/-!
# Networks that do not change their mind

A steady network answers by the request alone.  Over such a network a resolution takes the same
course whatever was requested before: it has the same result, makes the same requests and tells
the same events.  So nothing is carried over from one resolution to the next.  None of the events
is an error; that a resolution failed is left to be told by who asked for it.

A client makes a steady network of a wire that answers by the message alone.
-/

namespace StreamLinks

/-- What is answered depends on the request alone. -/
structure Network.IsSteady (network : Network) : Prop where
  get : ∀ before url, network.get before url = network.get [] url
  head : ∀ before url, network.head before url = network.head [] url

/-! ## Wires -/

/-- A wire that answers a message in the same way whatever was sent before. -/
structure Wire.IsSteady (wire : Wire) : Prop where
  answer : ∀ before message, wire.answer before message = wire.answer [] message

theorem Client.network_isSteady {wire : Wire} (hsteady : wire.IsSteady) (client : Client) :
    (client.network wire).IsSteady := by
  have hsend : ∀ before request,
      client.send wire before request = client.send wire [] request := by
    intro before request
    unfold Client.send
    cases client.messageFor? request with
    | none => rfl
    | some message => exact hsteady.answer _ message
  refine ⟨fun before url => ?_, fun before url => ?_⟩
  · simp only [Client.network, hsend before]
  · simp only [Client.network, hsend before]

/-! ## Traces one behind the other -/

namespace Trace

attribute [ext] Trace

def append (first second : Trace) : Trace :=
  ⟨first.requests ++ second.requests, first.events ++ second.events⟩

instance : Append Trace := ⟨append⟩

theorem append_assoc (first second third : Trace) :
    first ++ second ++ third = first ++ (second ++ third) := by
  ext1
  · exact List.append_assoc _ _ _
  · exact List.append_assoc _ _ _

@[simp] theorem append_empty (trace : Trace) : trace ++ empty = trace := by
  ext1
  · exact List.append_nil _
  · exact List.append_nil _

@[simp] theorem empty_append (trace : Trace) : empty ++ trace = trace := rfl

/-- None of the events is an error. -/
def IsCalm (trace : Trace) : Prop :=
  ∀ event ∈ trace.events, event.level ≠ .error

theorem isCalm_empty : empty.IsCalm :=
  nofun

theorem IsCalm.append {first second : Trace} (hfirst : first.IsCalm) (hsecond : second.IsCalm) :
    (first ++ second).IsCalm :=
  List.forall_mem_append.2 ⟨hfirst, hsecond⟩

end Trace

namespace Resolution

variable {α β ε : Type} {network : Network} {settings : PlatformSettings} {id : VideoId}

/-- Over the network the task ends with the same result behind every trace and adds the same to
it, no error among it. -/
def Repeats (network : Network) (task : Resolution α) : Prop :=
  ∃ result made, Trace.IsCalm made ∧
    ∀ trace, task.runFrom network trace = (result, trace ++ made)

namespace Repeats

theorem runFrom_eq {task : Resolution α} (htask : Repeats network task) (trace : Trace) :
    task.runFrom network trace =
      ((task.runFrom network Trace.empty).1,
        trace ++ (task.runFrom network Trace.empty).2) := by
  obtain ⟨result, made, -, hrun⟩ := htask
  rw [hrun, hrun, Trace.empty_append]

theorem isCalm {task : Resolution α} (htask : Repeats network task) :
    (task.runFrom network Trace.empty).2.IsCalm := by
  obtain ⟨result, made, hcalm, hrun⟩ := htask
  rwa [hrun, Trace.empty_append]

theorem pure (a : α) : Repeats network (Pure.pure a) := by
  refine ⟨.ok a, Trace.empty, Trace.isCalm_empty, fun trace => ?_⟩
  rw [Trace.append_empty]
  rfl

theorem throw (error : ResolveError) :
    Repeats network (MonadExcept.throw error : Resolution α) := by
  refine ⟨.error error, Trace.empty, Trace.isCalm_empty, fun trace => ?_⟩
  rw [Trace.append_empty]
  rfl

theorem bind {task : Resolution α} {next : α → Resolution β} (htask : Repeats network task)
    (hnext : ∀ a, Repeats network (next a)) : Repeats network (task >>= next) := by
  obtain ⟨result, made, hcalm, hrun⟩ := htask
  cases result with
  | error error =>
      refine ⟨.error error, made, hcalm, fun trace => ?_⟩
      rw [runFrom_bind, hrun]
  | ok a =>
      obtain ⟨result', made', hcalm', hrun'⟩ := hnext a
      refine ⟨result', made ++ made', hcalm.append hcalm', fun trace => ?_⟩
      rw [runFrom_bind, hrun]
      dsimp only
      rw [hrun', Trace.append_assoc]

theorem tell {level : Log.Level} (hlevel : level ≠ .error) (target message : String) :
    Repeats network (Resolution.tell target level message) := by
  refine ⟨.ok (), ⟨[], [⟨level, message, target⟩]⟩, ?_, fun trace => Prod.ext rfl ?_⟩
  · exact List.forall_mem_singleton.2 hlevel
  · ext1
    · exact (List.append_nil _).symm
    · rfl

theorem tryGet (hsteady : network.IsSteady) (url : String) :
    Repeats network (Resolution.tryGet url) := by
  refine ⟨.ok ((network.get [] url).mapError (.request url)), ⟨[⟨.get, url⟩], []⟩, nofun,
    fun trace => Prod.ext ?_ ?_⟩
  · rw [← hsteady.get trace.requests url]
    rfl
  · ext1
    · rfl
    · exact (List.append_nil _).symm

theorem tryHead (hsteady : network.IsSteady) (url : String) :
    Repeats network (Resolution.tryHead url) := by
  refine ⟨.ok ((network.head [] url).mapError (.request url)), ⟨[⟨.head, url⟩], []⟩, nofun,
    fun trace => Prod.ext ?_ ?_⟩
  · rw [← hsteady.head trace.requests url]
    rfl
  · ext1
    · rfl
    · exact (List.append_nil _).symm

theorem orFail (reason : ε → ResolveError) (x : Except ε α) :
    Repeats network (Resolution.orFail reason x) := by
  cases x with
  | ok a => exact .pure a
  | error e => exact .throw (reason e)

theorem orElseFail (error : ResolveError) (x : Option α) :
    Repeats network (Resolution.orElseFail error x) := by
  cases x with
  | some a => exact .pure a
  | none => exact .throw error

theorem fetchText (hsteady : network.IsSteady) (url : String) :
    Repeats network (Resolution.fetchText url) :=
  (tryGet hsteady url).bind fun answer => (orFail _ answer).bind fun response =>
    (orFail _ (response.checked url)).bind fun _ => .pure _

end Repeats

/-! ## The stages of a resolution -/

section

variable (hsteady : network.IsSteady)

include hsteady

theorem fetchInfoFrom_repeats (last : Option VideoInfo) (variants : List String) :
    Repeats network (fetchInfoFrom settings id last variants) := by
  induction variants generalizing last with
  | nil =>
      unfold fetchInfoFrom
      cases last.bind VideoInfo.reason with
      | some reason => exact .throw _
      | none => exact .throw _
  | cons variant rest ih =>
      unfold fetchInfoFrom
      refine (Repeats.tryGet hsteady _).bind fun answer => ?_
      cases answer with
      | error error => exact (Repeats.tell (by decide) _ _).bind fun _ => ih last
      | ok response =>
          dsimp only
          split
          · exact .pure _
          · split
            · exact (Repeats.tell (by decide) _ _).bind fun _ => ih _
            · exact ih _

theorem chooseStreamMap_repeats (info : VideoInfo) :
    Repeats network (chooseStreamMap settings id info) := by
  unfold chooseStreamMap
  dsimp only
  split
  · exact (Repeats.fetchText hsteady _).bind fun page => .orElseFail _ _
  · exact .pure _

theorem loadUnscrambler_repeats : Repeats network (loadUnscrambler settings id) := by
  have hlocate : Repeats network (locatePlayerScript settings id) :=
    (Repeats.fetchText hsteady _).bind fun page => .orElseFail _ _
  refine hlocate.bind fun url => (Repeats.fetchText hsteady url).bind fun script => ?_
  exact (Repeats.orElseFail _ _).bind fun function => .pure _

theorem finalUrl_repeats (unscrambler : Option Unscrambler) (entry : StreamEntry) :
    Repeats network (finalUrl settings id unscrambler entry) := by
  have happly : ∀ (loaded : Unscrambler) scrambled, Repeats network (loaded.apply scrambled) :=
    fun loaded scrambled => (Repeats.orFail _ _).bind fun signature => .pure _
  unfold finalUrl
  cases entry.signature with
  | plain signature => exact .pure _
  | absent => exact .pure _
  | scrambled scrambled =>
      cases unscrambler with
      | some loaded => exact (Repeats.pure loaded).bind fun loaded =>
          (happly loaded scrambled).bind fun _ => .pure _
      | none => exact (loadUnscrambler_repeats hsteady).bind fun loaded =>
          (happly loaded scrambled).bind fun _ => .pure _

theorem survivesProbe_repeats (entry : StreamEntry) (url : String) :
    Repeats network (survivesProbe settings id entry url) := by
  unfold survivesProbe
  split
  · exact .pure true
  · refine (Repeats.tryHead hsteady url).bind fun answer => ?_
    cases answer with
    | error error => exact .pure true
    | ok status =>
        dsimp only
        split
        · exact (Repeats.tell (by decide) _ _).bind fun _ => .pure false
        · exact .pure true

theorem resolveFragments_repeats (title : String) (unscrambler : Option Unscrambler)
    (listing : Dictionary StreamLink) (fragments : List String) :
    Repeats network (resolveFragments settings id title unscrambler listing fragments) := by
  induction fragments generalizing unscrambler listing with
  | nil => exact .pure listing
  | cons fragment rest ih =>
      unfold resolveFragments
      cases StreamEntry.ofFragment? fragment with
      | none => exact (Repeats.tell (by decide) _ _).bind fun _ => ih unscrambler listing
      | some entry =>
          refine (finalUrl_repeats hsteady unscrambler entry).bind fun found => ?_
          refine (survivesProbe_repeats hsteady entry found.1).bind fun survives => ?_
          split
          · exact (Repeats.pure _).bind fun later => ih found.2 later
          · exact (Repeats.pure _).bind fun later => ih found.2 later

theorem resolve_repeats : Repeats network (resolve settings id) := by
  refine (fetchInfoFrom_repeats hsteady none _).bind fun info => ?_
  refine (chooseStreamMap_repeats hsteady info).bind fun streamMap => ?_
  refine (resolveFragments_repeats hsteady _ none _ _).bind fun listing => ?_
  exact (Repeats.tell (by decide) _ _).bind fun _ => .pure _

end

end Resolution

end StreamLinks
