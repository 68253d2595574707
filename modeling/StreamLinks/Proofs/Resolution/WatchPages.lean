import StreamLinks.Proofs.Resolution.Listing
import StreamLinks.Proofs.Stream.Marks

/-!
# Stream maps from watch pages

The stream map of a record is gone through only when it is not marked, and then no entry
needs the player, unless a field hides its key.  So the signatures that are unscrambled
come from watch pages.
-/

namespace StreamLinks.Resolution

/-- The watch page has the stream map, when it is asked for after the requests `before`. -/
def OnWatchPage (network : Network) (settings : PlatformSettings) (id : VideoId)
    (before : List Request) (streamMap : String) : Prop :=
  ∃ page, pageAfter network before (settings.watchUrlFor id.text) = .ok page ∧
    Page.streamMap? page settings.includeAdaptive = some streamMap

variable {network : Network} {settings : PlatformSettings} {id : VideoId} {info : VideoInfo}
  {streamMap : String}

theorem signature_of_unmarked {fragment : List Char} {entry : StreamEntry}
    (hunmarked : isScrambled streamMap = false)
    (hfragment : fragment ∈ Text.splitAt ',' streamMap.toList) (hshows : ShowsKey fragment)
    (hentry : StreamEntry.ofFragment? (String.ofList fragment) = some entry) (scrambled : String) :
    entry.signature ≠ .scrambled scrambled := by
  intro hsignature
  have hmarked := isScrambled_of_entry hfragment hshows hentry hsignature
  rw [hunmarked] at hmarked
  cases hmarked

theorem needsPlayer_of_unmarked (hshows : ShowsKeys streamMap)
    (hunmarked : isScrambled streamMap = false) :
    ∀ entry ∈ entriesOf streamMap, needsPlayer entry = false := by
  intro entry hmem
  obtain ⟨text, htext, hentry⟩ := List.mem_filterMap.mp hmem
  obtain ⟨fragment, hfragment, rfl⟩ := List.mem_map.mp htext
  have hpiece := List.mem_of_mem_filter hfragment
  cases hneeds : needsPlayer entry with
  | false => rfl
  | true =>
      obtain ⟨scrambled, hsignature⟩ := signature_of_needsPlayer hneeds
      have hother := signature_of_unmarked hunmarked hpiece (hshows _ hpiece) hentry scrambled
      exact (hother hsignature).elim

theorem streamMapFor_of_marked (hmarked : isScrambled (recordStreamMap settings info) = true)
    (hmap : streamMapFor network settings id info = .ok streamMap) :
    OnWatchPage network settings id (infoRequests network settings id [] settings.infoVariants)
      streamMap := by
  unfold streamMapFor chosenStreamMap at hmap
  rw [if_pos hmarked, bind_eq_ok] at hmap
  obtain ⟨page, hpage, hfound⟩ := hmap
  exact ⟨page, hpage, elim_eq_ok.mp hfound⟩

theorem streamMapFor_of_unmarked
    (hunmarked : isScrambled (recordStreamMap settings info) = false) :
    streamMapFor network settings id info = .ok (recordStreamMap settings info) := by
  unfold streamMapFor chosenStreamMap
  rw [if_neg (by simp [hunmarked])]

theorem openingRequests_of_unmarked
    (hunmarked : isScrambled (recordStreamMap settings info) = false) :
    openingRequests network settings id info =
      infoRequests network settings id [] settings.infoVariants := by
  unfold openingRequests streamMapRequests
  rw [if_neg (by simp [hunmarked]), List.append_nil]

/-- A resolution over entries that need no player succeeds, with probes as its only
requests after the opening ones. -/
theorem resolve_of_plain (hinfo : usableInfo? network settings id = some info)
    (hmap : streamMapFor network settings id info = .ok streamMap)
    (hplain : ∀ entry ∈ entriesOf streamMap, needsPlayer entry = false) :
    let run := (resolve settings id).runFrom network Trace.empty
    (∃ streams, run.1 = .ok streams) ∧
      run.2.requests = openingRequests network settings id info ++
        probes settings ((entriesOf streamMap).map fun entry => ⟨entry, plainUrl entry⟩) := by
  intro run
  obtain ⟨hresult, hrequests⟩ := (resolve_course hinfo hmap).requests_eq
  rw [entryRequests_eq_probes hplain] at hrequests
  unfold listingResult at hresult
  rw [firstFailure_of_plain hplain] at hresult
  exact ⟨⟨_, hresult⟩, hrequests⟩

/-- In a stream map that is not marked a fragment is read as a stream with a scrambled
signature only if it hides the key.  So a resolution over a record that shows all keys
either takes the stream map from the watch page, or goes through that of the record
without the player: it asks for nothing but the record and probes of plain URLs, and
succeeds. -/
theorem unscrambles_watch_pages_only :
    (∀ map, isScrambled map = false →
      ∀ fragment ∈ Text.splitAt ',' map.toList, ShowsKey fragment → ∀ entry,
        StreamEntry.ofFragment? (String.ofList fragment) = some entry →
          ∀ scrambled, entry.signature ≠ .scrambled scrambled) ∧
    ∀ network settings id info streamMap, usableInfo? network settings id = some info →
      streamMapFor network settings id info = .ok streamMap →
      ShowsKeys (recordStreamMap settings info) →
        let opening := infoRequests network settings id [] settings.infoVariants
        let run := (resolve settings id).runFrom network Trace.empty
        (isScrambled (recordStreamMap settings info) = true ∧
            OnWatchPage network settings id opening streamMap) ∨
          ((∀ entry ∈ entriesOf streamMap, needsPlayer entry = false) ∧
            (∃ streams, run.1 = .ok streams) ∧
            run.2.requests = opening ++
              probes settings
                ((entriesOf streamMap).map fun entry => ⟨entry, plainUrl entry⟩)) := by
  constructor
  · intro map hunmarked fragment hfragment hshows entry hentry
    exact signature_of_unmarked hunmarked hfragment hshows hentry
  · intro network settings id info streamMap hinfo hmap hshows opening run
    cases hmarked : isScrambled (recordStreamMap settings info) with
    | true => exact .inl ⟨rfl, streamMapFor_of_marked hmarked hmap⟩
    | false =>
        have hrecord := hmap
        rw [streamMapFor_of_unmarked hmarked] at hrecord
        cases hrecord
        have hplain := needsPlayer_of_unmarked hshows hmarked
        obtain ⟨hstreams, hrequests⟩ := resolve_of_plain hinfo hmap hplain
        rw [openingRequests_of_unmarked hmarked] at hrequests
        exact .inr ⟨hplain, hstreams, hrequests⟩

/-- A record and a stream map of one plain stream. -/
def plainInfo : VideoInfo :=
  VideoInfo.ofBody "token=t&url_encoded_fmt_stream_map=itag%3D1%26url%3Du%26sig%3Ds"

def plainRecord : Network where
  get _ _ := .ok
    { status := 200
      body := ("token=t&url_encoded_fmt_stream_map=itag%3D1%26url%3Du%26sig%3Ds".toUTF8).toList }
  head _ _ := .ok 200

theorem unscrambles_watch_pages_only_of_plain_record :
    let id : VideoId := ⟨"v", by decide, by decide⟩
    let settings : PlatformSettings := { infoUrl := "info", infoVariants := [""] }
    let map := "itag=1&url=u&sig=s"
    let plain : StreamEntry := ⟨"1", none, none, "u", .plain "s"⟩
    ShowsKeys map ∧ isScrambled map = false ∧
      StreamEntry.ofFragment? map = some plain ∧ plain.signature ≠ .scrambled "s" ∧
      usableInfo? plainRecord settings id = some plainInfo ∧
      streamMapFor plainRecord settings id plainInfo = .ok map ∧
      ((resolve settings id).runFrom plainRecord Trace.empty).2.requests =
        [⟨.get, "info"⟩, ⟨.head, "u?signature=s"⟩] := by
  intro id settings map plain
  have hshows : ShowsKeys map := by decide +kernel
  have hunmarked : isScrambled map = false := by decide +kernel
  have hentry : StreamEntry.ofFragment? map = some plain := by decide +kernel
  have hinfo : usableInfo? plainRecord settings id = some plainInfo := by decide +kernel
  have hmap : streamMapFor plainRecord settings id plainInfo = .ok map := by decide +kernel
  have hrecord : recordStreamMap settings plainInfo = map := by decide +kernel
  have hfragment : map.toList ∈ Text.splitAt ',' map.toList := by decide +kernel
  obtain ⟨hfragments, hresolve⟩ := unscrambles_watch_pages_only
  have hsignature := hfragments map hunmarked map.toList hfragment (hshows _ hfragment) plain
    (by rw [String.ofList_toList, hentry]) "s"
  refine ⟨hshows, hunmarked, hentry, hsignature, hinfo, hmap, ?_⟩
  have hkeys : ShowsKeys (recordStreamMap settings plainInfo) := by rw [hrecord]; exact hshows
  rcases hresolve _ _ _ _ _ hinfo hmap hkeys with ⟨hmarked, -⟩ | ⟨-, -, hrequests⟩
  · rw [hrecord, hunmarked] at hmarked
    cases hmarked
  · rw [hrequests]
    decide +kernel

end StreamLinks.Resolution
