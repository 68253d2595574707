import Mathlib.Data.List.TakeWhile
import StreamLinks.Proofs.Resolution.Signatures

/-!
# Going through the entries of a stream map

Entries are taken in order.  Each gets its final URL and, when streams are probed,
one probe; the first that needs the player has it loaded before that.  The first
entry without a final URL ends the resolution.  What is listed are the entries
whose probe was not forbidden.
-/

namespace StreamLinks.Resolution

structure LocatedEntry where
  entry : StreamEntry
  url : String

/-- The entries up to the first without a final URL. -/
def located (final : StreamEntry → Except ResolveError String) :
    List StreamEntry → List LocatedEntry
  | [] => []
  | entry :: rest =>
      match final entry with
      | .ok url => ⟨entry, url⟩ :: located final rest
      | .error _ => []

/-- Why the first entry without a final URL has none. -/
def firstFailure (final : StreamEntry → Except ResolveError String)
    (entries : List StreamEntry) : Option ResolveError :=
  entries.findSome? fun entry =>
    match final entry with
    | .ok _ => none
    | .error error => some error

def probes (settings : PlatformSettings) (entries : List LocatedEntry) : List Request :=
  if settings.probeStreams then entries.map fun found => ⟨.head, found.url⟩ else []

def probeAnswers (network : Network) (before : List Request) :
    List Request → List (Except String Nat)
  | [] => []
  | request :: rest =>
      match request.method with
      | .get => probeAnswers network (before ++ [request]) rest
      | .head =>
          network.head before request.url :: probeAnswers network (before ++ [request]) rest

def isForbidden : Except String Nat → Bool
  | .ok status => status == forbidden
  | .error _ => false

/-- The entries whose probe is not answered by "forbidden". -/
def kept (settings : PlatformSettings) (entries : List LocatedEntry)
    (answers : List (Except String Nat)) : List LocatedEntry :=
  if settings.probeStreams then
    ((entries.zip answers).filter fun probed => !isForbidden probed.2).map Prod.fst
  else entries

def listed (title : String) (entries : List LocatedEntry) : List (String × StreamLink) :=
  entries.map fun found => (found.entry.itag, found.entry.toLink title found.url)

/-- What becomes of a listing when entries are gone through by the requests
`made`. -/
def listingResult (network : Network) (settings : PlatformSettings) (title : String)
    (final : StreamEntry → Except ResolveError String) (before made : List Request)
    (listing : Dictionary StreamLink) (entries : List StreamEntry) :
    Except ResolveError (Dictionary StreamLink) :=
  match firstFailure final entries with
  | some error => .error error
  | none =>
      .ok (listing.putAll (listed title
        (kept settings (located final entries) (probeAnswers network before made))))

/-- The probe of a URL does not drop it. -/
def survives (network : Network) (settings : PlatformSettings) (before : List Request)
    (url : String) : Bool :=
  !settings.probeStreams || !isForbidden (network.head before url)

variable {network : Network} {settings : PlatformSettings} {id : VideoId} {title : String}
  {before made : List Request} {listing : Dictionary StreamLink} {player : Player}
  {final : StreamEntry → Except ResolveError String} {entry : StreamEntry} {url : String}
  {entries : List StreamEntry} {error : ResolveError}

/-! ## One entry after the other -/

@[simp] theorem probes_nil : probes settings [] = [] := by
  unfold probes
  split <;> rfl

theorem probes_cons (found : LocatedEntry) (rest : List LocatedEntry) :
    probes settings (found :: rest) = probes settings [found] ++ probes settings rest := by
  unfold probes
  by_cases hprobe : settings.probeStreams = true
  · simp [hprobe]
  · simp [hprobe]

theorem probeAnswers_append (first second : List Request) :
    probeAnswers network before (first ++ second) =
      probeAnswers network before first ++ probeAnswers network (before ++ first) second := by
  induction first generalizing before with
  | nil => simp [probeAnswers]
  | cons request rest ih =>
      cases hmethod : request.method with
      | get => simp [probeAnswers, hmethod, ih]
      | head => simp [probeAnswers, hmethod, ih]

theorem probeAnswers_of_gets {requests : List Request}
    (hgets : ∀ request ∈ requests, request.method = .get) :
    probeAnswers network before requests = [] := by
  induction requests generalizing before with
  | nil => rfl
  | cons request rest ih =>
      have hmethod := hgets request List.mem_cons_self
      simp only [probeAnswers, hmethod]
      apply ih
      intro other hother
      exact hgets other (List.mem_cons_of_mem request hother)

theorem located_cons_of_ok (hurl : final entry = .ok url) (rest : List StreamEntry) :
    located final (entry :: rest) = ⟨entry, url⟩ :: located final rest := by
  simp [located, hurl]

theorem located_cons_of_error (herror : final entry = .error error) (rest : List StreamEntry) :
    located final (entry :: rest) = [] := by
  simp [located, herror]

theorem kept_cons (rest : List LocatedEntry) (requests : List Request) :
    kept settings (⟨entry, url⟩ :: rest)
        (probeAnswers network before (probes settings [⟨entry, url⟩] ++ requests)) =
      (if survives network settings before url then [⟨entry, url⟩] else []) ++
        kept settings rest
          (probeAnswers network (before ++ probes settings [⟨entry, url⟩]) requests) := by
  rw [probeAnswers_append]
  unfold kept survives probes
  by_cases hprobe : settings.probeStreams = true
  · cases hforbidden : isForbidden (network.head before url)
    · simp [hprobe, probeAnswers, hforbidden]
    · simp [hprobe, probeAnswers, hforbidden]
  · simp [hprobe]

/-- The listing with an entry put in if its probe does not drop it. -/
def listIf (keep : Bool) (title : String) (listing : Dictionary StreamLink)
    (entry : StreamEntry) (url : String) : Dictionary StreamLink :=
  if keep then listing.put entry.itag (entry.toLink title url) else listing

theorem listingResult_nil (requests : List Request) :
    listingResult network settings title final before requests listing [] = .ok listing := by
  simp [listingResult, firstFailure, located, kept, listed, Dictionary.putAll]

theorem listingResult_cons_of_ok (hurl : final entry = .ok url) (rest : List StreamEntry)
    (requests : List Request) :
    listingResult network settings title final before
        (probes settings [⟨entry, url⟩] ++ requests) listing (entry :: rest) =
      listingResult network settings title final (before ++ probes settings [⟨entry, url⟩])
        requests (listIf (survives network settings before url) title listing entry url)
        rest := by
  have hfailure : firstFailure final (entry :: rest) = firstFailure final rest := by
    simp [firstFailure, hurl]
  unfold listingResult
  rw [hfailure, located_cons_of_ok hurl, kept_cons]
  cases hkeep : survives network settings before url
  · simp [listIf]
  · simp [listIf, listed, Dictionary.putAll]

theorem listingResult_cons_of_error (herror : final entry = .error error)
    (rest : List StreamEntry) (requests : List Request) :
    listingResult network settings title final before requests listing (entry :: rest) =
      .error error := by
  simp [listingResult, firstFailure, herror]

/-! ## The course through the entries -/

theorem survivesProbe_course (entry : StreamEntry) (url : String) :
    Course network before (survivesProbe settings id entry url)
      (probes settings [⟨entry, url⟩]) (.ok (survives network settings before url)) := by
  have hhead : Course network before (tryHead url) [⟨.head, url⟩]
      (.ok ((network.head before url).mapError (.request url))) := .tryHead url
  unfold survivesProbe probes survives
  by_cases hprobe : settings.probeStreams = true
  · simp only [hprobe, Bool.not_true, Bool.false_eq_true, if_false, if_true, Bool.false_or,
      List.map_cons, List.map_nil]
    apply hhead.bind
    cases network.head before url with
    | error message => exact .pure _
    | ok status =>
        dsimp only [Except.mapError, isForbidden]
        by_cases hstatus : status = forbidden
        · rw [if_pos hstatus, beq_iff_eq.mpr hstatus]
          exact (Course.tell _ _ _).bind_silent (.pure _)
        · rw [if_neg hstatus, beq_eq_false_iff_ne.mpr hstatus]
          exact .pure _
  · have hunprobed : settings.probeStreams = false := by simpa using hprobe
    simp only [hunprobed, Bool.not_false, Bool.true_or, if_true, Bool.false_eq_true, if_false]
    exact .pure _

section

variable {fragment : String} {rest : List String} {unscrambler after : Option Unscrambler}
  {result : Except ResolveError (Dictionary StreamLink)}

theorem resolveFragments_skip (hentry : StreamEntry.ofFragment? fragment = none)
    (hrest : Course network before
      (resolveFragments settings id title unscrambler listing rest) made result) :
    Course network before
      (resolveFragments settings id title unscrambler listing (fragment :: rest)) made result := by
  unfold resolveFragments
  rw [hentry]
  exact (Course.tell _ _ _).bind_silent hrest

theorem resolveFragments_fail (hentry : StreamEntry.ofFragment? fragment = some entry)
    (hurl : Course network before (finalUrl settings id unscrambler entry) [] (.error error)) :
    Course network before
      (resolveFragments settings id title unscrambler listing (fragment :: rest)) []
      (.error error) := by
  unfold resolveFragments
  rw [hentry]
  exact hurl.bind_error

theorem resolveFragments_step (hentry : StreamEntry.ofFragment? fragment = some entry)
    (hurl : Course network before (finalUrl settings id unscrambler entry) [] (.ok (url, after)))
    (hrest : Course network (before ++ probes settings [⟨entry, url⟩])
      (resolveFragments settings id title after
        (listIf (survives network settings before url) title listing entry url) rest)
      made result) :
    Course network before
      (resolveFragments settings id title unscrambler listing (fragment :: rest))
      (probes settings [⟨entry, url⟩] ++ made) result := by
  unfold resolveFragments
  rw [hentry]
  apply hurl.bind_silent
  apply (survivesProbe_course entry url).bind
  unfold listIf at hrest
  cases hkeep : survives network settings before url
  · rw [hkeep] at hrest
    exact (Course.pure _).bind_silent hrest
  · rw [hkeep] at hrest
    exact (Course.pure _).bind_silent hrest

/-- The first entry that needs the player has it loaded, and is then gone on with
as any other. -/
theorem resolveFragments_load (hentry : StreamEntry.ofFragment? fragment = some entry)
    (hneeds : needsPlayer entry = true) :
    resolveFragments settings id title none listing (fragment :: rest) =
      loadUnscrambler settings id >>= fun loaded =>
        resolveFragments settings id title (some loaded) listing (fragment :: rest) := by
  simp only [resolveFragments, hentry, finalUrl_of_scrambled hneeds, bind_assoc]

end

/-- With the player at hand, the only requests are the probes. -/
theorem resolveFragments_course_of_player {unscrambler : Unscrambler}
    (hserves : Serves settings player unscrambler) (fragments : List String) :
    let entries := fragments.filterMap StreamEntry.ofFragment?
    let made := probes settings (located (entryUrl settings (.ok player)) entries)
    Course network before
      (resolveFragments settings id title (some unscrambler) listing fragments) made
      (listingResult network settings title (entryUrl settings (.ok player)) before made listing
        entries) := by
  -- Each signature fills the cache of the unscrambler, but it serves the same player.
  induction fragments generalizing before listing unscrambler with
  | nil =>
      simp only [List.filterMap_nil, located, probes_nil, listingResult_nil]
      exact .pure listing
  | cons fragment rest ih =>
      cases hentry : StreamEntry.ofFragment? fragment with
      | none =>
          simp only [List.filterMap_cons, hentry]
          exact resolveFragments_skip hentry (ih hserves)
      | some entry =>
          obtain ⟨after, hafter, hfinal⟩ := hserves.finalUrl_course network id before entry
          simp only [List.filterMap_cons, hentry]
          cases hurl : entryUrl settings (.ok player) entry with
          | error error =>
              rw [hurl] at hfinal
              rw [located_cons_of_error hurl, probes_nil, listingResult_cons_of_error hurl]
              exact resolveFragments_fail hentry hfinal
          | ok url =>
              rw [hurl] at hfinal
              rw [located_cons_of_ok hurl, probes_cons, listingResult_cons_of_ok hurl]
              exact resolveFragments_step hentry hfinal (ih hafter)

/-! ## Loading the player when it is needed -/

/-- The probes of the entries before the first that needs the player. -/
def plainProbes (settings : PlatformSettings) (entries : List StreamEntry) : List Request :=
  probes settings
    ((entries.takeWhile fun entry => !needsPlayer entry).map fun entry =>
      ⟨entry, plainUrl entry⟩)

/-- The player for entries that are gone through after some requests. -/
def playerFor (network : Network) (settings : PlatformSettings) (id : VideoId)
    (before : List Request) (entries : List StreamEntry) : Except ResolveError Player :=
  foundPlayer network settings id (before ++ plainProbes settings entries)

/-- The requests for entries: the probes of those that need no player, and from the
first one on that does, first the player and then the probes up to the first entry
without a final URL. -/
def entryRequests (network : Network) (settings : PlatformSettings) (id : VideoId)
    (before : List Request) (entries : List StreamEntry) : List Request :=
  plainProbes settings entries ++
    match entries.dropWhile fun entry => !needsPlayer entry with
    | [] => []
    | first :: rest =>
        playerRequests network settings id (before ++ plainProbes settings entries) ++
          probes settings
            (located (entryUrl settings (playerFor network settings id before entries))
              (first :: rest))

/-- Entries that need no player are only probed. -/
theorem entryRequests_eq_probes (hplain : ∀ entry ∈ entries, needsPlayer entry = false) :
    entryRequests network settings id before entries =
      probes settings (entries.map fun entry => ⟨entry, plainUrl entry⟩) := by
  have hall : ∀ entry ∈ entries, (!needsPlayer entry) = true := by
    intro entry hentry
    rw [hplain entry hentry, Bool.not_false]
  rw [entryRequests, List.dropWhile_eq_nil_iff.mpr hall, List.append_nil, plainProbes,
    List.takeWhile_eq_self_iff.mpr hall]

theorem plainProbes_cons_of_plain (hplain : needsPlayer entry = false) :
    plainProbes settings (entry :: entries) =
      probes settings [⟨entry, plainUrl entry⟩] ++ plainProbes settings entries := by
  unfold plainProbes
  rw [← probes_cons]
  simp [hplain]

theorem plainProbes_cons_of_scrambled (hneeds : needsPlayer entry = true) :
    plainProbes settings (entry :: entries) = [] := by
  simp [plainProbes, hneeds]

theorem playerFor_cons_of_plain (hplain : needsPlayer entry = false) :
    playerFor network settings id before (entry :: entries) =
      playerFor network settings id (before ++ probes settings [⟨entry, plainUrl entry⟩])
        entries := by
  unfold playerFor
  rw [plainProbes_cons_of_plain hplain, List.append_assoc]

theorem playerFor_cons_of_scrambled (hneeds : needsPlayer entry = true) :
    playerFor network settings id before (entry :: entries) =
      foundPlayer network settings id before := by
  unfold playerFor
  rw [plainProbes_cons_of_scrambled hneeds, List.append_nil]

theorem entryRequests_cons_of_plain (hplain : needsPlayer entry = false) :
    entryRequests network settings id before (entry :: entries) =
      probes settings [⟨entry, plainUrl entry⟩] ++
        entryRequests network settings id
          (before ++ probes settings [⟨entry, plainUrl entry⟩]) entries := by
  unfold entryRequests
  rw [playerFor_cons_of_plain hplain, plainProbes_cons_of_plain hplain]
  simp [hplain]

theorem entryRequests_cons_of_scrambled (hneeds : needsPlayer entry = true) :
    entryRequests network settings id before (entry :: entries) =
      playerRequests network settings id before ++
        probes settings
          (located (entryUrl settings (foundPlayer network settings id before))
            (entry :: entries)) := by
  unfold entryRequests
  rw [playerFor_cons_of_scrambled hneeds, plainProbes_cons_of_scrambled hneeds]
  simp [hneeds]

theorem playerRequests_gets :
    ∀ request ∈ playerRequests network settings id before, request.method = .get := by
  unfold playerRequests
  cases playerScriptUrl network settings id before with
  | error error => simp [watchRequest]
  | ok url => simp [watchRequest]

theorem listingResult_after_gets {gets : List Request}
    (hgets : ∀ request ∈ gets, request.method = .get) :
    listingResult network settings title final before (gets ++ made) listing entries =
      listingResult network settings title final (before ++ gets) made listing entries := by
  unfold listingResult
  rw [probeAnswers_append, probeAnswers_of_gets hgets, List.nil_append]

theorem resolveFragments_course (fragments : List String) :
    let entries := fragments.filterMap StreamEntry.ofFragment?
    let made := entryRequests network settings id before entries
    Course network before (resolveFragments settings id title none listing fragments) made
      (listingResult network settings title
        (entryUrl settings (playerFor network settings id before entries)) before made listing
        entries) := by
  induction fragments generalizing before listing with
  | nil =>
      have hmade : entryRequests network settings id before [] = [] := by
        simp [entryRequests, plainProbes]
      simp only [List.filterMap_nil, hmade, listingResult_nil]
      exact .pure listing
  | cons fragment rest ih =>
      cases hentry : StreamEntry.ofFragment? fragment with
      | none =>
          simp only [List.filterMap_cons, hentry]
          exact resolveFragments_skip hentry ih
      | some entry =>
          simp only [List.filterMap_cons, hentry]
          cases hneeds : needsPlayer entry with
          | false =>
              rw [entryRequests_cons_of_plain hneeds, playerFor_cons_of_plain hneeds,
                listingResult_cons_of_ok (entryUrl_of_plain hneeds _)]
              exact resolveFragments_step hentry (finalUrl_course_of_plain hneeds none) ih
          | true =>
              -- From here on the player is at hand, so the rest is not an induction
              -- on this statement but a case of the one before.
              have hload : Course network before (loadUnscrambler settings id)
                  (playerRequests network settings id before)
                  (Player.unscrambler settings <$> foundPlayer network settings id before) :=
                loadUnscrambler_course
              rw [resolveFragments_load hentry hneeds, entryRequests_cons_of_scrambled hneeds,
                playerFor_cons_of_scrambled hneeds,
                listingResult_after_gets playerRequests_gets]
              cases hplayer : foundPlayer network settings id before with
              | error error =>
                  rw [hplayer] at hload
                  have hfailed : entryUrl settings (.error error) entry = .error error :=
                    entryUrl_of_failed hneeds
                  rw [located_cons_of_error hfailed, listingResult_cons_of_error hfailed,
                    probes_nil, List.append_nil]
                  exact hload.bind_error
              | ok player =>
                  rw [hplayer] at hload
                  have hentries : (fragment :: rest).filterMap StreamEntry.ofFragment? =
                      entry :: rest.filterMap StreamEntry.ofFragment? := by
                    rw [List.filterMap_cons, hentry]
                  rw [← hentries]
                  exact hload.bind
                    (resolveFragments_course_of_player (player.unscrambler_serves settings) _)

end StreamLinks.Resolution
