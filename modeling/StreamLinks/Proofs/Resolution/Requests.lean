import StreamLinks.Proofs.Resolution.Entries
import StreamLinks.Proofs.Resolution.Information

/-!
# The requests of a resolution

What a resolution asks for, in which order and up to where, is fixed by its
settings, its video and the answers that it gets.  First come the variants of the
information URL, then perhaps the watch page for the stream map, then the entries.
-/

namespace StreamLinks.Resolution

/-- The first usable record, if the variants are asked one after the other. -/
def usableInfo? (network : Network) (settings : PlatformSettings) (id : VideoId) :
    Option VideoInfo :=
  (infoRecords network settings id [] settings.infoVariants).findSome?
    (Option.filter VideoInfo.isValid)

/-- The requests for information, and for the stream map of a record. -/
def openingRequests (network : Network) (settings : PlatformSettings) (id : VideoId)
    (info : VideoInfo) : List Request :=
  infoRequests network settings id [] settings.infoVariants ++ streamMapRequests settings id info

/-- The stream map that the entries are taken from. -/
def streamMapFor (network : Network) (settings : PlatformSettings) (id : VideoId)
    (info : VideoInfo) : Except ResolveError String :=
  chosenStreamMap network settings id (infoRequests network settings id [] settings.infoVariants)
    info

def entriesOf (streamMap : String) : List StreamEntry :=
  (fragments streamMap).filterMap StreamEntry.ofFragment?

variable {network : Network} {settings : PlatformSettings} {id : VideoId} {info : VideoInfo}
  {streamMap : String} {error : ResolveError}

/-! ## The course of a whole resolution -/

theorem fetchInfo_course_of_usable (hinfo : usableInfo? network settings id = some info) :
    Course network [] (fetchInfo settings id)
      (infoRequests network settings id [] settings.infoVariants) (.ok info) := by
  have hresult : infoResult none (infoRecords network settings id [] settings.infoVariants) =
      .ok info := by
    unfold usableInfo? at hinfo
    rw [infoResult, hinfo]
  rw [← hresult]
  exact fetchInfo_course

theorem resolve_course_of_unusable (hinfo : usableInfo? network settings id = none) :
    ∃ error, Course network [] (resolve settings id)
      (infoRequests network settings id [] settings.infoVariants) (.error error) := by
  have hfailed : ∃ error,
      infoResult none (infoRecords network settings id [] settings.infoVariants) =
        .error error := by
    unfold usableInfo? at hinfo
    rw [infoResult, hinfo]
    dsimp only
    split
    · exact ⟨_, rfl⟩
    · exact ⟨_, rfl⟩
  obtain ⟨error, herror⟩ := hfailed
  have hfetch : Course network [] (fetchInfo settings id)
      (infoRequests network settings id [] settings.infoVariants) (.error error) := by
    rw [← herror]
    exact fetchInfo_course
  exact ⟨error, hfetch.bind_error⟩

theorem resolve_course_of_no_map (hinfo : usableInfo? network settings id = some info)
    (hmap : streamMapFor network settings id info = .error error) :
    Course network [] (resolve settings id) (openingRequests network settings id info)
      (.error error) := by
  have hchoose : Course network (infoRequests network settings id [] settings.infoVariants)
      (chooseStreamMap settings id info) (streamMapRequests settings id info)
      (.error error) := by
    rw [← hmap]
    exact chooseStreamMap_course
  unfold resolve
  exact (fetchInfo_course_of_usable hinfo).bind hchoose.bind_error

theorem resolve_course (hinfo : usableInfo? network settings id = some info)
    (hmap : streamMapFor network settings id info = .ok streamMap) :
    let opening := openingRequests network settings id info
    let entries := entriesOf streamMap
    let made := entryRequests network settings id opening entries
    Course network [] (resolve settings id) (opening ++ made)
      (Dictionary.values <$>
        listingResult network settings (info.title.getD "")
          (entryUrl settings (playerFor network settings id opening entries)) opening made
          Dictionary.empty entries) := by
  intro opening entries made
  have hchoose : Course network (infoRequests network settings id [] settings.infoVariants)
      (chooseStreamMap settings id info) (streamMapRequests settings id info)
      (.ok streamMap) := by
    rw [← hmap]
    exact chooseStreamMap_course
  have hlist : Course network opening
      (resolveFragments settings id (info.title.getD "") none Dictionary.empty
        (fragments streamMap)) made
      (listingResult network settings (info.title.getD "")
        (entryUrl settings (playerFor network settings id opening entries)) opening made
        Dictionary.empty entries) := resolveFragments_course (fragments streamMap)
  have hfinish : ∀ listing : Dictionary StreamLink, Course network (opening ++ made)
      (do
        tellOfStreams .info
          ("Resolved " ++ toString listing.entries.length ++ " streams for " ++ id.text)
        return listing.values)
      [] (.ok listing.values) :=
    fun listing => (Course.tell _ _ _).bind_silent (.pure listing.values)
  have hsplit : opening ++ made = infoRequests network settings id [] settings.infoVariants ++
      (streamMapRequests settings id info ++ made) := List.append_assoc _ _ _
  unfold resolve
  rw [map_eq_pure_bind, hsplit]
  apply (fetchInfo_course_of_usable hinfo).bind
  apply hchoose.bind
  exact hlist.andThen hfinish

theorem Course.requests_eq {α : Type} {task : Resolution α} {made : List Request}
    {result : Except ResolveError α} (hcourse : Course network [] task made result) :
    (task.runFrom network Trace.empty).1 = result ∧
      (task.runFrom network Trace.empty).2.requests = made := by
  obtain ⟨told, hrun⟩ := hcourse []
  unfold Trace.empty
  rw [hrun]
  exact ⟨rfl, rfl⟩

/-! ## The kinds of requests for entries -/

def isProbe (request : Request) : Bool :=
  request.method = .head

theorem filter_isProbe_probes (found : List LocatedEntry) :
    (probes settings found).filter isProbe = probes settings found := by
  rw [List.filter_eq_self]
  intro request hrequest
  unfold probes at hrequest
  split at hrequest
  · obtain ⟨entry, -, rfl⟩ := List.mem_map.mp hrequest
    rfl
  · contradiction

theorem filter_isProbe_of_gets {requests : List Request}
    (hgets : ∀ request ∈ requests, request.method = .get) : requests.filter isProbe = [] := by
  rw [List.filter_eq_nil_iff]
  intro request hrequest
  simp [isProbe, hgets request hrequest]

theorem filter_not_isProbe_of_gets {requests : List Request}
    (hgets : ∀ request ∈ requests, request.method = .get) :
    requests.filter (fun request => !isProbe request) = requests := by
  rw [List.filter_eq_self]
  intro request hrequest
  simp [isProbe, hgets request hrequest]

theorem filter_not_isProbe_probes (found : List LocatedEntry) :
    (probes settings found).filter (fun request => !isProbe request) = [] := by
  rw [← filter_isProbe_probes, List.filter_filter]
  simp

/-- The probes are those of the entries up to the first without a final URL. -/
theorem filter_isProbe_entryRequests (before : List Request) (entries : List StreamEntry) :
    (entryRequests network settings id before entries).filter isProbe =
      probes settings
        (located (entryUrl settings (playerFor network settings id before entries)) entries) := by
  induction entries generalizing before with
  | nil => simp [entryRequests, plainProbes, located]
  | cons entry rest ih =>
      cases hneeds : needsPlayer entry with
      | false =>
          rw [entryRequests_cons_of_plain hneeds, playerFor_cons_of_plain hneeds,
            located_cons_of_ok (entryUrl_of_plain hneeds _), List.filter_append,
            filter_isProbe_probes, ih]
          exact (probes_cons _ _).symm
      | true =>
          rw [entryRequests_cons_of_scrambled hneeds, playerFor_cons_of_scrambled hneeds,
            List.filter_append, filter_isProbe_of_gets playerRequests_gets, filter_isProbe_probes,
            List.nil_append]

/-- Anything else is asked for the player, once, and only if an entry needs it. -/
theorem filter_not_isProbe_entryRequests (before : List Request) (entries : List StreamEntry) :
    (entryRequests network settings id before entries).filter (fun request => !isProbe request) =
      if entries.any needsPlayer then
        playerRequests network settings id (before ++ plainProbes settings entries)
      else [] := by
  induction entries generalizing before with
  | nil => simp [entryRequests, plainProbes]
  | cons entry rest ih =>
      cases hneeds : needsPlayer entry with
      | false =>
          rw [entryRequests_cons_of_plain hneeds, plainProbes_cons_of_plain hneeds,
            List.filter_append, filter_not_isProbe_probes, List.nil_append, ih, List.append_assoc]
          simp [hneeds]
      | true =>
          rw [entryRequests_cons_of_scrambled hneeds, plainProbes_cons_of_scrambled hneeds,
            List.filter_append, filter_not_isProbe_probes,
            filter_not_isProbe_of_gets playerRequests_gets]
          simp [hneeds]

/-- The requests of a resolution are fixed by what it starts from and by the answers.
The variants are asked up to the first usable record; the watch page is asked for a
stream map only if that of the record is marked as scrambled; and then come the
requests for the entries, which besides probes are those for one player, if an entry
needs it.  Where something fails the requests end. -/
theorem requests_of_resolve (network : Network) (settings : PlatformSettings) (id : VideoId) :
    let requests := ((resolve settings id).runFrom network Trace.empty).2.requests
    match usableInfo? network settings id with
    | none => requests = infoRequests network settings id [] settings.infoVariants
    | some info =>
        let opening := openingRequests network settings id info
        match streamMapFor network settings id info with
        | .error _ => requests = opening
        | .ok streamMap =>
            let entries := entriesOf streamMap
            requests = opening ++ entryRequests network settings id opening entries ∧
              (requests.drop opening.length).filter (fun request => !isProbe request) =
                if entries.any needsPlayer then
                  playerRequests network settings id (opening ++ plainProbes settings entries)
                else [] := by
  intro requests
  cases hinfo : usableInfo? network settings id with
  | none =>
      obtain ⟨error, hcourse⟩ := resolve_course_of_unusable hinfo
      exact hcourse.requests_eq.2
  | some info =>
      dsimp only
      cases hmap : streamMapFor network settings id info with
      | error error => exact (resolve_course_of_no_map hinfo hmap).requests_eq.2
      | ok streamMap =>
          dsimp only
          let opening := openingRequests network settings id info
          let entries := entriesOf streamMap
          have hrequests : requests =
              opening ++ entryRequests network settings id opening entries :=
            (resolve_course hinfo hmap).requests_eq.2
          constructor
          · exact hrequests
          · rw [hrequests, List.drop_left]
            exact filter_not_isProbe_entryRequests opening entries

end StreamLinks.Resolution
