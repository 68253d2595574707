import Mathlib.Data.List.ReduceOption
import StreamLinks.Proofs.Resolution.Course
import StreamLinks.Resolution.Info

/-!
# Asking variants for information

Variants are asked one after the other until a record has a token.  So the
requests are those for the variants up to the first with a valid record, and the
record is that one; without any, all variants are asked and the last record that
arrived says why.
-/

namespace StreamLinks.Resolution

variable (network : Network) (settings : PlatformSettings) (id : VideoId)

def infoRequest (variant : String) : Request :=
  ⟨.get, settings.infoUrlFor id.text variant⟩

/-- The record that a variant gives after some requests, if its request does not
fail. -/
def infoRecord (before : List Request) (variant : String) : Option VideoInfo :=
  (network.get before (settings.infoUrlFor id.text variant)).toOption.map
    fun response => VideoInfo.ofBody response.text

def infoRecords (before : List Request) : List String → List (Option VideoInfo)
  | [] => []
  | variant :: rest =>
      infoRecord network settings id before variant ::
        infoRecords (before ++ [infoRequest settings id variant]) rest

def isUsable (record : Option VideoInfo) : Bool :=
  record.any VideoInfo.isValid

/-- The requests for variants up to the first with a usable record. -/
def infoRequests (before : List Request) (variants : List String) : List Request :=
  (variants.map (infoRequest settings id)).take
    ((infoRecords network settings id before variants).findIdx isUsable + 1)

/-- The first usable record, or else what the last one that arrived says; before
all of them `last` arrived. -/
def infoResult (last : Option VideoInfo) (records : List (Option VideoInfo)) :
    Except ResolveError VideoInfo :=
  match records.findSome? (Option.filter VideoInfo.isValid) with
  | some info => .ok info
  | none =>
      match (records.reduceOption.getLast?.or last).bind VideoInfo.reason with
      | some reason => .error (.rejected reason)
      | none => .error .unavailable

variable {network settings id} {before : List Request} {last : Option VideoInfo}
  {info : VideoInfo} {variant : String} {rest : List String}

@[simp] theorem isUsable_some (info : VideoInfo) : isUsable (some info) = info.isValid := rfl

@[simp] theorem isUsable_none : isUsable none = false := rfl

theorem infoRequests_cons_of_usable
    (husable : isUsable (infoRecord network settings id before variant) = true) :
    infoRequests network settings id before (variant :: rest) =
      [infoRequest settings id variant] := by
  simp [infoRequests, infoRecords, List.findIdx_cons, husable]

theorem infoRequests_cons_of_unusable
    (hunusable : isUsable (infoRecord network settings id before variant) = false) :
    infoRequests network settings id before (variant :: rest) =
      infoRequest settings id variant ::
        infoRequests network settings id (before ++ [infoRequest settings id variant]) rest := by
  simp [infoRequests, infoRecords, List.findIdx_cons, hunusable]

theorem infoResult_cons_none (records : List (Option VideoInfo)) :
    infoResult last (none :: records) = infoResult last records := by
  simp [infoResult]

theorem infoResult_cons_of_valid (hvalid : info.isValid = true)
    (records : List (Option VideoInfo)) :
    infoResult last (some info :: records) = .ok info := by
  simp [infoResult, Option.filter, hvalid]

theorem infoResult_cons_of_invalid (hinvalid : info.isValid = false)
    (records : List (Option VideoInfo)) :
    infoResult last (some info :: records) = infoResult (some info) records := by
  have hlast : (some info :: records).reduceOption.getLast?.or last =
      records.reduceOption.getLast?.or (some info) := by
    rw [List.reduceOption_cons_of_some, List.getLast?_cons, Option.some_or]
    cases records.reduceOption.getLast? <;> rfl
  have hfirst : (some info :: records).findSome? (Option.filter VideoInfo.isValid) =
      records.findSome? (Option.filter VideoInfo.isValid) := by
    simp [Option.filter, hinvalid]
  unfold infoResult
  rw [hfirst, hlast]

/-! ## One variant after the other -/

section

variable {made : List Request} {result : Except ResolveError VideoInfo} {message : String}
  {response : Response}

theorem infoRecord_of_answer
    (hanswer : network.get before (settings.infoUrlFor id.text variant) = .ok response) :
    infoRecord network settings id before variant = some (VideoInfo.ofBody response.text) := by
  simp [infoRecord, hanswer, Except.toOption]

theorem infoRecord_of_failure
    (hanswer : network.get before (settings.infoUrlFor id.text variant) = .error message) :
    infoRecord network settings id before variant = none := by
  simp [infoRecord, hanswer, Except.toOption]

variable (network settings id before variant) in
theorem askVariant_course :
    Course network before (tryGet (settings.infoUrlFor id.text variant))
      [infoRequest settings id variant]
      (.ok ((network.get before (settings.infoUrlFor id.text variant)).mapError
        (.request (settings.infoUrlFor id.text variant)))) :=
  .tryGet _

theorem fetchInfoFrom_unanswered
    (hanswer : network.get before (settings.infoUrlFor id.text variant) = .error message)
    (hrest : Course network (before ++ [infoRequest settings id variant])
      (fetchInfoFrom settings id last rest) made result) :
    Course network before (fetchInfoFrom settings id last (variant :: rest))
      (infoRequest settings id variant :: made) result := by
  have hask := askVariant_course network settings id before variant
  rw [hanswer] at hask
  unfold fetchInfoFrom
  apply hask.bind
  exact (Course.tell _ _ _).bind_silent hrest

theorem fetchInfoFrom_valid
    (hanswer : network.get before (settings.infoUrlFor id.text variant) = .ok response)
    (hvalid : (VideoInfo.ofBody response.text).isValid = true) :
    Course network before (fetchInfoFrom settings id last (variant :: rest))
      [infoRequest settings id variant] (.ok (VideoInfo.ofBody response.text)) := by
  have hask := askVariant_course network settings id before variant
  rw [hanswer] at hask
  unfold fetchInfoFrom
  apply hask.bind
  dsimp only [Except.mapError]
  rw [if_pos hvalid]
  exact .pure _

theorem fetchInfoFrom_invalid
    (hanswer : network.get before (settings.infoUrlFor id.text variant) = .ok response)
    (hinvalid : (VideoInfo.ofBody response.text).isValid = false)
    (hrest : Course network (before ++ [infoRequest settings id variant])
      (fetchInfoFrom settings id (some (VideoInfo.ofBody response.text)) rest) made result) :
    Course network before (fetchInfoFrom settings id last (variant :: rest))
      (infoRequest settings id variant :: made) result := by
  have hask := askVariant_course network settings id before variant
  rw [hanswer] at hask
  unfold fetchInfoFrom
  apply hask.bind
  dsimp only [Except.mapError]
  rw [if_neg (Bool.eq_false_iff.mp hinvalid)]
  by_cases htold : (!response.isSuccess) = true
  · rw [if_pos htold]
    exact (Course.tell _ _ _).bind_silent hrest
  · rw [if_neg htold]
    exact hrest

end

theorem fetchInfoFrom_nil_course :
    Course network before (fetchInfoFrom settings id last []) [] (infoResult last []) := by
  have hresult : infoResult last [] =
      match last.bind VideoInfo.reason with
      | some reason => .error (.rejected reason)
      | none => .error .unavailable := by
    simp [infoResult]
  rw [hresult]
  unfold fetchInfoFrom
  cases last.bind VideoInfo.reason with
  | some reason => exact .throw _
  | none => exact .throw _

theorem fetchInfoFrom_course (last : Option VideoInfo) (variants : List String) :
    Course network before (fetchInfoFrom settings id last variants)
      (infoRequests network settings id before variants)
      (infoResult last (infoRecords network settings id before variants)) := by
  -- A record without a token is the last one for the variants behind it.
  induction variants generalizing before last with
  | nil =>
      have hrequests : infoRequests network settings id before [] = [] := by
        simp [infoRequests]
      rw [hrequests]
      exact fetchInfoFrom_nil_course
  | cons variant rest ih =>
      cases hanswer : network.get before (settings.infoUrlFor id.text variant) with
      | error message =>
          have hrecord := infoRecord_of_failure hanswer
          have hunusable : isUsable (infoRecord network settings id before variant) = false := by
            rw [hrecord, isUsable_none]
          rw [infoRequests_cons_of_unusable hunusable, infoRecords, hrecord,
            infoResult_cons_none]
          exact fetchInfoFrom_unanswered hanswer (ih last)
      | ok response =>
          have hrecord := infoRecord_of_answer hanswer
          cases hvalid : (VideoInfo.ofBody response.text).isValid with
          | true =>
              have husable : isUsable (infoRecord network settings id before variant) = true := by
                rw [hrecord, isUsable_some, hvalid]
              rw [infoRequests_cons_of_usable husable, infoRecords, hrecord,
                infoResult_cons_of_valid hvalid]
              exact fetchInfoFrom_valid hanswer hvalid
          | false =>
              have hunusable :
                  isUsable (infoRecord network settings id before variant) = false := by
                rw [hrecord, isUsable_some, hvalid]
              rw [infoRequests_cons_of_unusable hunusable, infoRecords, hrecord,
                infoResult_cons_of_invalid hvalid]
              exact fetchInfoFrom_invalid hanswer hvalid (ih _)

theorem fetchInfo_course :
    Course network before (fetchInfo settings id)
      (infoRequests network settings id before settings.infoVariants)
      (infoResult none (infoRecords network settings id before settings.infoVariants)) :=
  fetchInfoFrom_course none settings.infoVariants

end StreamLinks.Resolution
