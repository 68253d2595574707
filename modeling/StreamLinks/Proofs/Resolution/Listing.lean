import StreamLinks.Proofs.Dictionary
import StreamLinks.Proofs.Resolution.Requests

/-!
# The streams that are listed

A resolution that succeeds lists the entries of its stream map whose probe was not
forbidden: each itag once, in the place of its first such entry and with the link
of its last one.
-/

namespace StreamLinks.Resolution

/-- The streams are those of some entries, of which the last one counts for its itag. -/
structure Lists (title : String) (entries : List LocatedEntry) (streams : List StreamLink) :
    Prop where
  distinct : (streams.map StreamLink.itag).Nodup
  itags : streams.map StreamLink.itag =
    (entries.map fun found => found.entry.itag).eraseDups
  links : ∀ stream ∈ streams, ∃ found,
    entries.reverse.find? (fun found => found.entry.itag == stream.itag) = some found ∧
      stream = found.entry.toLink title found.url

variable {network : Network} {settings : PlatformSettings} {id : VideoId} {info : VideoInfo}
  {streamMap title : String} {final : StreamEntry → Except ResolveError String}
  {streams : List StreamLink}

/-! ## The dictionary of what is listed -/

theorem reverse_find?_listed (entries : List LocatedEntry) (itag : String) :
    ((listed title entries).reverse.find? fun pair => pair.1 == itag).map Prod.snd =
      (entries.reverse.find? fun found => found.entry.itag == itag).map fun found =>
        found.entry.toLink title found.url := by
  unfold listed
  rw [← List.map_reverse, List.find?_map, Option.map_map]
  rfl

theorem map_fst_listed (entries : List LocatedEntry) :
    (listed title entries).map Prod.fst = entries.map fun found => found.entry.itag := by
  unfold listed
  rw [List.map_map]
  rfl

theorem find?_of_mem_listed {entries : List LocatedEntry} {itag : String} {stream : StreamLink}
    (hmem : (itag, stream) ∈ (Dictionary.ofPairs (listed title entries)).entries) :
    ∃ found, entries.reverse.find? (fun found => found.entry.itag == itag) = some found ∧
      stream = found.entry.toLink title found.url := by
  have hget := Dictionary.get?_of_mem (Dictionary.nodup_keys_ofPairs _) hmem
  rw [Dictionary.get?_ofPairs, reverse_find?_listed, Option.map_eq_some_iff] at hget
  obtain ⟨found, hfound, hlink⟩ := hget
  exact ⟨found, hfound, hlink.symm⟩

theorem itag_of_mem_listed {entries : List LocatedEntry} {itag : String} {stream : StreamLink}
    (hmem : (itag, stream) ∈ (Dictionary.ofPairs (listed title entries)).entries) :
    stream.itag = itag := by
  obtain ⟨found, hfound, rfl⟩ := find?_of_mem_listed hmem
  have hitag := List.find?_some hfound
  exact beq_iff_eq.mp hitag

theorem lists_values (entries : List LocatedEntry) :
    Lists title entries (Dictionary.ofPairs (listed title entries)).values := by
  have hkeys : (Dictionary.ofPairs (listed title entries)).values.map StreamLink.itag =
      (Dictionary.ofPairs (listed title entries)).keys := by
    unfold Dictionary.values Dictionary.keys
    rw [List.map_map]
    apply List.map_congr_left
    intro pair hpair
    exact itag_of_mem_listed hpair
  constructor
  · rw [hkeys]
    exact Dictionary.nodup_keys_ofPairs _
  · rw [hkeys, Dictionary.keys_ofPairs, map_fst_listed]
  · intro stream hstream
    obtain ⟨⟨itag, link⟩, hpair, rfl⟩ := List.mem_map.mp hstream
    rw [itag_of_mem_listed hpair]
    exact find?_of_mem_listed hpair

/-! ## Entries that all have a final URL -/

variable {entry : StreamEntry} {url : String} {entries : List StreamEntry}
  {error : ResolveError}

theorem firstFailure_cons_of_ok (hurl : final entry = .ok url) :
    firstFailure final (entry :: entries) = firstFailure final entries := by
  simp [firstFailure, hurl]

theorem firstFailure_cons_of_error (herror : final entry = .error error) :
    firstFailure final (entry :: entries) = some error := by
  simp [firstFailure, herror]

theorem firstFailure_eq_none :
    firstFailure final entries = none ↔ ∀ entry ∈ entries, ∃ url, final entry = .ok url := by
  induction entries with
  | nil => simp [firstFailure]
  | cons entry rest ih =>
      rw [List.forall_mem_cons]
      cases hfinal : final entry with
      | ok url => simp [firstFailure_cons_of_ok hfinal, ih]
      | error error => simp [firstFailure_cons_of_error hfinal]

theorem located_of_plain {player : Except ResolveError Player}
    (hplain : ∀ entry ∈ entries, needsPlayer entry = false) :
    located (entryUrl settings player) entries =
      entries.map fun entry => ⟨entry, plainUrl entry⟩ := by
  induction entries with
  | nil => rfl
  | cons entry rest ih =>
      rw [List.forall_mem_cons] at hplain
      rw [located_cons_of_ok (entryUrl_of_plain hplain.1 _), ih hplain.2, List.map_cons]

theorem firstFailure_of_plain {player : Except ResolveError Player}
    (hplain : ∀ entry ∈ entries, needsPlayer entry = false) :
    firstFailure (entryUrl settings player) entries = none := by
  rw [firstFailure_eq_none]
  intro entry hentry
  exact ⟨plainUrl entry, entryUrl_of_plain (hplain entry hentry) player⟩

theorem map_entry_located (hnone : firstFailure final entries = none) :
    (located final entries).map LocatedEntry.entry = entries := by
  induction entries with
  | nil => rfl
  | cons entry rest ih =>
      cases hurl : final entry with
      | ok url =>
          rw [firstFailure_cons_of_ok hurl] at hnone
          rw [located_cons_of_ok hurl, List.map_cons, ih hnone]
      | error error =>
          rw [firstFailure_cons_of_error hurl] at hnone
          contradiction

theorem final_of_mem_located {found : LocatedEntry}
    (hfound : found ∈ located final entries) : final found.entry = .ok found.url := by
  induction entries with
  | nil => contradiction
  | cons entry rest ih =>
      cases hurl : final entry with
      | ok url =>
          rw [located_cons_of_ok hurl] at hfound
          rcases List.mem_cons.mp hfound with rfl | hrest
          · exact hurl
          · exact ih hrest
      | error error =>
          rw [located_cons_of_error hurl] at hfound
          contradiction

theorem listingResult_ok {before made : List Request} {listing found : Dictionary StreamLink}
    (hok : listingResult network settings title final before made listing entries = .ok found) :
    firstFailure final entries = none ∧
      found = listing.putAll (listed title
        (kept settings (located final entries) (probeAnswers network before made))) := by
  unfold listingResult at hok
  cases hfailure : firstFailure final entries with
  | some error =>
      rw [hfailure] at hok
      contradiction
  | none =>
      rw [hfailure] at hok
      cases hok
      exact ⟨rfl, rfl⟩

theorem listingResult_eq_error {before made : List Request} {listing : Dictionary StreamLink} :
    listingResult network settings title final before made listing entries = .error error ↔
      firstFailure final entries = some error := by
  unfold listingResult
  cases firstFailure final entries with
  | some other => simp
  | none => simp

/-! ## What a resolution lists -/

theorem openingRequests_gets :
    ∀ request ∈ openingRequests network settings id info, request.method = .get := by
  intro request hrequest
  unfold openingRequests infoRequests streamMapRequests at hrequest
  rcases List.mem_append.mp hrequest with hinfo | hmap
  · obtain ⟨variant, -, rfl⟩ := List.mem_map.mp (List.mem_of_mem_take hinfo)
    rfl
  · split at hmap
    · rw [List.mem_singleton.mp hmap]
      rfl
    · contradiction

theorem usable_of_resolve
    (hstreams : ((resolve settings id).runFrom network Trace.empty).1 = .ok streams) :
    ∃ info streamMap, usableInfo? network settings id = some info ∧
      streamMapFor network settings id info = .ok streamMap := by
  cases hinfo : usableInfo? network settings id with
  | none =>
      obtain ⟨error, hcourse⟩ := resolve_course_of_unusable hinfo
      rw [hcourse.requests_eq.1] at hstreams
      contradiction
  | some info =>
      cases hmap : streamMapFor network settings id info with
      | error error =>
          rw [(resolve_course_of_no_map hinfo hmap).requests_eq.1] at hstreams
          contradiction
      | ok streamMap => exact ⟨info, streamMap, rfl, hmap⟩

/-- With its stream map at hand a resolution that succeeds lists the entries that it
has located, which are all entries of the map. -/
theorem lists_located (hinfo : usableInfo? network settings id = some info)
    (hmap : streamMapFor network settings id info = .ok streamMap)
    (hstreams : ((resolve settings id).runFrom network Trace.empty).1 = .ok streams) :
    let requests := ((resolve settings id).runFrom network Trace.empty).2.requests
    let opening := openingRequests network settings id info
    let entries := entriesOf streamMap
    let found := located (entryUrl settings (playerFor network settings id opening entries)) entries
    found.map LocatedEntry.entry = entries ∧
      requests.filter isProbe = probes settings found ∧
      Lists (info.title.getD "") (kept settings found (probeAnswers network [] requests))
        streams := by
  intro requests opening entries found
  let made := entryRequests network settings id opening entries
  let final := entryUrl settings (playerFor network settings id opening entries)
  obtain ⟨hresult, hrequests⟩ := (resolve_course hinfo hmap).requests_eq
  rw [hresult] at hstreams
  have hrequests : requests = opening ++ made := hrequests
  have hprobes : requests.filter isProbe = probes settings found := by
    rw [hrequests, List.filter_append, filter_isProbe_of_gets openingRequests_gets,
      List.nil_append]
    exact filter_isProbe_entryRequests opening entries
  have hanswers : probeAnswers network [] requests = probeAnswers network opening made := by
    rw [hrequests, probeAnswers_append, probeAnswers_of_gets openingRequests_gets,
      List.nil_append, List.nil_append]
  cases hlisting : listingResult network settings (info.title.getD "") final opening made
      Dictionary.empty entries with
  | error error =>
      rw [hlisting] at hstreams
      contradiction
  | ok listing =>
      rw [hlisting] at hstreams
      obtain ⟨hall, rfl⟩ := listingResult_ok hlisting
      cases hstreams
      refine ⟨map_entry_located hall, hprobes, ?_⟩
      rw [hanswers]
      exact lists_values _

/-- A resolution that succeeds has a final URL for every entry of its stream map,
probes exactly these when streams are probed, and lists the entries whose probe was
not forbidden. -/
theorem listing_of_resolve
    (hstreams : ((resolve settings id).runFrom network Trace.empty).1 = .ok streams) :
    let requests := ((resolve settings id).runFrom network Trace.empty).2.requests
    ∃ info streamMap found,
      usableInfo? network settings id = some info ∧
      streamMapFor network settings id info = .ok streamMap ∧
      found.map LocatedEntry.entry = entriesOf streamMap ∧
      (∀ location ∈ found,
        entryUrl settings
          (playerFor network settings id (openingRequests network settings id info)
            (entriesOf streamMap)) location.entry = .ok location.url) ∧
      requests.filter isProbe = probes settings found ∧
      Lists (info.title.getD "") (kept settings found (probeAnswers network [] requests))
        streams := by
  intro requests
  obtain ⟨info, streamMap, hinfo, hmap⟩ := usable_of_resolve hstreams
  obtain ⟨hentries, hprobes, hlists⟩ := lists_located hinfo hmap hstreams
  refine ⟨info, streamMap, _, hinfo, hmap, hentries, ?_, hprobes, hlists⟩
  intro location hlocation
  exact final_of_mem_located hlocation

/-- Four streams of two itags: the probes of the first of one and of the last of the
other are forbidden. -/
def repeatedItags : Network where
  get _ _ := .ok
    { status := 200
      body := (String.toUTF8 ("token=t&title=T&url_encoded_fmt_stream_map="
        ++ "itag=1%26url=a,itag=2%26url=b,itag=1%26url=c,itag=2%26url=d")).toList }
  head _ url := .ok (if url = "a" ∨ url = "d" then forbidden else 200)

theorem listing_of_repeated_itags :
    let id : VideoId := ⟨"v", by decide, by decide⟩
    let streams : List StreamLink :=
      [⟨"2", "T", "b", "unknown", none, "2 - unknown"⟩,
        ⟨"1", "T", "c", "unknown", none, "1 - unknown"⟩]
    let requests := ((resolve {} id).runFrom repeatedItags Trace.empty).2.requests
    ((resolve {} id).runFrom repeatedItags Trace.empty).1 = .ok streams ∧
      ∃ info found,
        usableInfo? repeatedItags {} id = some info ∧
        requests.filter isProbe = probes {} found ∧
        Lists (info.title.getD "") (kept {} found (probeAnswers repeatedItags [] requests))
          streams := by
  intro id streams requests
  have hstreams : ((resolve {} id).runFrom repeatedItags Trace.empty).1 = .ok streams := by
    decide +kernel
  obtain ⟨info, -, found, hinfo, -, -, -, hprobes, hlists⟩ := listing_of_resolve hstreams
  exact ⟨hstreams, info, found, hinfo, hprobes, hlists⟩

end StreamLinks.Resolution
