import StreamLinks.Proofs.Resolution.Information

/-!
# Falling back from one variant to the next

Which record a resolution goes on with, or why it cannot, is read off the records
that the variants give one after the other: the first with a token is used, and
without any the last that arrived says why.  A variant that does not answer counts
for neither.
-/

namespace StreamLinks.Resolution

def HasToken (info : VideoInfo) : Prop :=
  ∃ token, info.token = some token ∧ token ≠ ""

/-- `info` has a token and comes right behind `front`, where no record has one. -/
structure FirstWithToken (records front : List (Option VideoInfo)) (info : VideoInfo) : Prop where
  token : HasToken info
  earlier : ∀ other, some other ∈ front → ¬ HasToken other
  place : ∃ rest, records = front ++ some info :: rest

/-- Behind `info` no record arrived. -/
def LastArrived (records : List (Option VideoInfo)) (info : VideoInfo) : Prop :=
  ∃ front rest, records = front ++ some info :: rest ∧ ∀ record ∈ rest, record = none

variable {records front : List (Option VideoInfo)} {info : VideoInfo} {error : ResolveError}

theorem isValid_iff_hasToken : info.isValid = true ↔ HasToken info := by
  unfold VideoInfo.isValid HasToken
  cases info.token with
  | none => simp
  | some token => simp

theorem filter_isValid_eq_some {record : Option VideoInfo} :
    record.filter VideoInfo.isValid = some info ↔ record = some info ∧ HasToken info := by
  rw [Option.filter_eq_some_iff, isValid_iff_hasToken]

theorem filter_isValid_eq_none {record : Option VideoInfo} :
    record.filter VideoInfo.isValid = none ↔ ∀ other, record = some other → ¬ HasToken other := by
  simp [Option.filter_eq_none_iff, isValid_iff_hasToken]

/-! ## The record that is used -/

theorem isUsable_eq_true {record : Option VideoInfo} :
    isUsable record = true ↔ ∃ info, record = some info ∧ HasToken info := by
  cases record with
  | none => simp
  | some info => simp [isValid_iff_hasToken]

theorem findSome?_filter_isValid :
    records.findSome? (Option.filter VideoInfo.isValid) = some info ↔
      ∃ front, FirstWithToken records front info := by
  rw [List.findSome?_eq_some_iff]
  constructor
  · rintro ⟨front, record, rest, rfl, hrecord, hfront⟩
    obtain ⟨rfl, htoken⟩ := filter_isValid_eq_some.mp hrecord
    refine ⟨front, htoken, ?_, rest, rfl⟩
    intro other hother
    exact filter_isValid_eq_none.mp (hfront _ hother) other rfl
  · rintro ⟨front, htoken, hearlier, rest, rfl⟩
    refine ⟨front, some info, rest, rfl, filter_isValid_eq_some.mpr ⟨rfl, htoken⟩, ?_⟩
    intro record hrecord
    apply filter_isValid_eq_none.mpr
    rintro other rfl
    exact hearlier other hrecord

theorem findSome?_filter_isValid_eq_none :
    records.findSome? (Option.filter VideoInfo.isValid) = none ↔
      ∀ info, some info ∈ records → ¬ HasToken info := by
  simp only [List.findSome?_eq_none_iff, filter_isValid_eq_none]
  constructor
  · intro h info hinfo
    exact h (some info) hinfo info rfl
  · rintro h record hrecord info rfl
    exact h info hrecord

theorem FirstWithToken.findIdx_eq (hfirst : FirstWithToken records front info) :
    records.findIdx isUsable = front.length := by
  obtain ⟨rest, rfl⟩ := hfirst.place
  have hfront : ∀ record ∈ front, isUsable record = false := by
    intro record hrecord
    rw [Bool.eq_false_iff]
    intro husable
    obtain ⟨other, rfl, htoken⟩ := isUsable_eq_true.mp husable
    exact hfirst.earlier other hrecord htoken
  have hinfo : isUsable (some info) = true := isUsable_eq_true.mpr ⟨info, rfl, hfirst.token⟩
  rw [List.findIdx_append, List.findIdx_eq_length.mpr hfront, if_neg (Nat.lt_irrefl _),
    List.findIdx_cons, hinfo, cond_true, Nat.zero_add]

/-- A record with a token is there exactly when there is a first one. -/
theorem exists_firstWithToken_iff :
    (∃ info front, FirstWithToken records front info) ↔
      ∃ info, some info ∈ records ∧ HasToken info := by
  constructor
  · rintro ⟨info, front, hfirst⟩
    obtain ⟨rest, rfl⟩ := hfirst.place
    exact ⟨info, by simp, hfirst.token⟩
  · rintro ⟨info, hinfo, htoken⟩
    cases hfirst : records.findSome? (Option.filter VideoInfo.isValid) with
    | some first => exact ⟨first, findSome?_filter_isValid.mp hfirst⟩
    | none => exact absurd htoken (findSome?_filter_isValid_eq_none.mp hfirst info hinfo)

theorem findIdx_of_no_token (hnone : ∀ info, some info ∈ records → ¬ HasToken info) :
    records.findIdx isUsable = records.length := by
  rw [List.findIdx_eq_length]
  intro record hrecord
  rw [Bool.eq_false_iff]
  intro husable
  obtain ⟨info, rfl, htoken⟩ := isUsable_eq_true.mp husable
  exact hnone info hrecord htoken

/-! ## The record that says why -/

theorem getLast?_reduceOption :
    records.reduceOption.getLast? = some info ↔ LastArrived records info := by
  unfold List.reduceOption LastArrived
  rw [List.getLast?_filterMap, List.findSome?_eq_some_iff]
  constructor
  · rintro ⟨rest, record, front, hsplit, rfl, hrest⟩
    refine ⟨front.reverse, rest.reverse, ?_, ?_⟩
    · rw [← List.reverse_reverse records, hsplit]
      simp
    · intro record hrecord
      exact hrest record (List.mem_reverse.mp hrecord)
  · rintro ⟨front, rest, rfl, hrest⟩
    refine ⟨rest.reverse, some info, front.reverse, by simp, rfl, ?_⟩
    intro record hrecord
    exact hrest record (List.mem_reverse.mp hrecord)

theorem infoResult_eq_ok :
    infoResult none records = .ok info ↔ ∃ front, FirstWithToken records front info := by
  rw [← findSome?_filter_isValid]
  unfold infoResult
  cases hfirst : records.findSome? (Option.filter VideoInfo.isValid) with
  | some first => simp
  | none =>
      cases (records.reduceOption.getLast?.or none).bind VideoInfo.reason with
      | some reason => simp
      | none => simp

/-- Without a token the last record that arrived says why, if it gives a reason. -/
def Explains (records : List (Option VideoInfo)) (error : ResolveError) : Prop :=
  (∃ last reason, LastArrived records last ∧ last.reason = some reason ∧
      error = .rejected reason) ∨
    (∀ last, LastArrived records last → last.reason = none) ∧ error = .unavailable

theorem infoResult_eq_error :
    infoResult none records = .error error ↔
      (∀ info, some info ∈ records → ¬ HasToken info) ∧ Explains records error := by
  rw [← findSome?_filter_isValid_eq_none]
  unfold infoResult Explains
  cases hfirst : records.findSome? (Option.filter VideoInfo.isValid) with
  | some first => simp
  | none =>
      simp only [Option.or_none, ← getLast?_reduceOption]
      cases hlast : records.reduceOption.getLast? with
      | none => simp [eq_comm]
      | some last =>
          cases hreason : last.reason with
          | none => simp [hreason, eq_comm]
          | some reason => simp [hreason, eq_comm]

/-! ## The course of the fallback -/

theorem length_infoRecords (network : Network) (settings : PlatformSettings) (id : VideoId)
    (before : List Request) (variants : List String) :
    (infoRecords network settings id before variants).length = variants.length := by
  induction variants generalizing before with
  | nil => rfl
  | cons variant rest ih => rw [infoRecords, List.length_cons, ih, List.length_cons]

/-- Information about a video comes from the first variant whose record has a token, and
then no variant behind it is asked.  Without any all of them are asked, each once, and
the error says what the last record that arrived gives as its reason. -/
theorem fallback_of_fetchInfo (network : Network) (settings : PlatformSettings) (id : VideoId)
    (trace : Trace) :
    let variants := settings.infoVariants
    let records := infoRecords network settings id trace.requests variants
    let asked := fun count => trace.requests ++ (variants.take count).map (infoRequest settings id)
    let run := (fetchInfo settings id).runFrom network trace
    ((∃ info, run.1 = .ok info) ↔ ∃ info, some info ∈ records ∧ HasToken info) ∧
      (∀ info, run.1 = .ok info ↔
        ∃ front, FirstWithToken records front info ∧
          run.2.requests = asked (front.length + 1)) ∧
      (∀ error, run.1 = .error error ↔
        (∀ info, some info ∈ records → ¬ HasToken info) ∧ Explains records error ∧
          run.2.requests = asked variants.length) := by
  intro variants records asked run
  have hcourse : Course network trace.requests (fetchInfo settings id)
      (infoRequests network settings id trace.requests variants) (infoResult none records) :=
    fetchInfo_course
  obtain ⟨told, hrun⟩ := hcourse trace.events
  have hresult : run.1 = infoResult none records := congrArg Prod.fst hrun
  have hrequests : run.2.requests = asked (records.findIdx isUsable + 1) := by
    have hmade : run.2.requests =
        trace.requests ++ infoRequests network settings id trace.requests variants :=
      congrArg (fun after => after.2.requests) hrun
    rw [hmade, infoRequests, ← List.map_take]
  refine ⟨?_, ?_, ?_⟩
  · simp only [hresult, infoResult_eq_ok]
    exact exists_firstWithToken_iff
  · intro info
    rw [hresult, infoResult_eq_ok]
    constructor
    · rintro ⟨front, hfirst⟩
      exact ⟨front, hfirst, by rw [hrequests, hfirst.findIdx_eq]⟩
    · rintro ⟨front, hfirst, -⟩
      exact ⟨front, hfirst⟩
  · intro error
    rw [hresult, infoResult_eq_error]
    constructor
    · rintro ⟨hnone, hexplains⟩
      refine ⟨hnone, hexplains, ?_⟩
      have hlength : records.length = variants.length := length_infoRecords ..
      have hall : asked (records.length + 1) = asked variants.length := by
        simp only [asked, hlength, List.take_length, List.take_of_length_le (Nat.le_succ _)]
      rw [hrequests, findIdx_of_no_token hnone, hall]
    · rintro ⟨hnone, hexplains, -⟩
      exact ⟨hnone, hexplains⟩

end StreamLinks.Resolution
