import StreamLinks.Proofs.Resolution.Fallback
import StreamLinks.Proofs.Resolution.Listing
import StreamLinks.Proofs.Stream.Maps

/-!
# Streams that need no player

The record about a video may describe streams whose signatures are not scrambled.  They
are listed as they were described before they were written into the map and the map into
the record, and nothing but the record is asked for.
-/

namespace StreamLinks.Resolution

/-- The record has a token and writes the regular and the adaptive streams, whatever else
it holds. -/
structure Describes (body : String) (regular adaptive : List PlainStream) : Prop where
  token : HasToken (VideoInfo.ofBody body)
  regular : ∃ map, PlainStream.WritesMap regular map ∧
    Query.Holds body ("url_encoded_fmt_stream_map", map)
  adaptive : ∃ map, PlainStream.WritesMap adaptive map ∧
    Query.Holds body ("adaptive_fmts", map)

/-- The listing has each itag of the links once, in the place of the first link with it,
and the last link with it is the one that is listed. -/
structure IsListing (links listing : List StreamLink) : Prop where
  itags : listing.map StreamLink.itag = (links.map StreamLink.itag).eraseDups
  last : ∀ link ∈ listing,
    links.reverse.find? (fun other => other.itag == link.itag) = some link

variable {network : Network} {settings : PlatformSettings} {id : VideoId} {info : VideoInfo}
  {before : List Request} {variant title : String} {rest : List String} {response : Response}
  {streams regular adaptive : List PlainStream} {entries : List StreamEntry}
  {player : Except ResolveError Player}

/-! ## The first record and its stream map -/

theorem infoRequests_of_first (hvariants : settings.infoVariants = variant :: rest)
    (hanswer : network.get [] (settings.infoUrlFor id.text variant) = .ok response)
    (htoken : HasToken (VideoInfo.ofBody response.text)) :
    infoRequests network settings id [] settings.infoVariants =
      [infoRequest settings id variant] := by
  rw [hvariants]
  apply infoRequests_cons_of_usable
  rw [infoRecord_of_answer hanswer, isUsable_some]
  exact isValid_iff_hasToken.mpr htoken

theorem usableInfo?_of_first (hvariants : settings.infoVariants = variant :: rest)
    (hanswer : network.get [] (settings.infoUrlFor id.text variant) = .ok response)
    (htoken : HasToken (VideoInfo.ofBody response.text)) :
    usableInfo? network settings id = some (VideoInfo.ofBody response.text) := by
  have hvalid : (VideoInfo.ofBody response.text).isValid = true :=
    isValid_iff_hasToken.mpr htoken
  rw [usableInfo?, hvariants, infoRecords, infoRecord_of_answer hanswer, List.findSome?_cons,
    Option.filter_some_pos hvalid]

theorem Describes.writesMap_recordStreamMap {body : String}
    (hbody : Describes body regular adaptive) (settings : PlatformSettings) :
    PlainStream.WritesMap
      (if settings.includeAdaptive then regular ++ adaptive else regular)
      (recordStreamMap settings (VideoInfo.ofBody body)) := by
  obtain ⟨map, hmap, hholds⟩ := hbody.regular
  obtain ⟨adaptiveMap, hadaptiveMap, hadaptiveHolds⟩ := hbody.adaptive
  have hregular : (VideoInfo.ofBody body).streamMap = some map := hholds.get?_parse
  have hadaptive : (VideoInfo.ofBody body).adaptiveFormats = some adaptiveMap :=
    hadaptiveHolds.get?_parse
  rw [recordStreamMap, hregular, hadaptive]
  exact hmap.withAdaptive hadaptiveMap settings.includeAdaptive

/-! ## Entries that need no player -/

theorem needsPlayer_entry (stream : PlainStream) : needsPlayer stream.entry = false := by
  unfold needsPlayer PlainStream.entry
  cases stream.signature <;> rfl

theorem plainUrl_entry (stream : PlainStream) :
    plainUrl stream.entry = (stream.link title).url := by
  unfold plainUrl PlainStream.entry PlainStream.link
  cases stream.signature <;> rfl

theorem forall_mem_entries (streams : List PlainStream) :
    ∀ entry ∈ streams.map PlainStream.entry, needsPlayer entry = false := by
  intro entry hentry
  obtain ⟨stream, -, rfl⟩ := List.mem_map.mp hentry
  exact needsPlayer_entry stream

theorem entryRequests_of_plain (hplain : ∀ entry ∈ entries, needsPlayer entry = false)
    (hprobe : settings.probeStreams = false) :
    entryRequests network settings id before entries = [] := by
  rw [entryRequests_eq_probes hplain]
  simp [probes, hprobe]

theorem map_toLink_of_plain (streams : List PlainStream) :
    (located (entryUrl settings player) (streams.map PlainStream.entry)).map
        (fun found => found.entry.toLink title found.url) =
      streams.map (PlainStream.link title) := by
  rw [located_of_plain (forall_mem_entries streams), List.map_map, List.map_map]
  apply List.map_congr_left
  intro stream hstream
  calc stream.entry.toLink title (plainUrl stream.entry)
      = stream.entry.toLink title (stream.link title).url := by rw [plainUrl_entry]
    _ = stream.link title := PlainStream.toLink_entry title stream

theorem Lists.isListing {found : List LocatedEntry} {listing : List StreamLink}
    (hlists : Lists title found listing) :
    IsListing (found.map fun location => location.entry.toLink title location.url) listing := by
  constructor
  · rw [hlists.itags, List.map_map]
    rfl
  · intro link hlink
    obtain ⟨location, hlocation, hlocated⟩ := hlists.links link hlink
    have hlast : (found.reverse.find? fun location =>
        (location.entry.toLink title location.url).itag == link.itag) = some location :=
      hlocation
    rw [← List.map_reverse, List.find?_map, Function.comp_def, hlast, Option.map_some,
      ← hlocated]

/-- With probing off a resolution over a record of streams that need no player asks for
this record only, and lists the streams as they were described. -/
theorem listing_of_plain_streams (hvariants : settings.infoVariants = variant :: rest)
    (hprobe : settings.probeStreams = false)
    (hanswer : network.get [] (settings.infoUrlFor id.text variant) = .ok response)
    (hbody : Describes response.text regular adaptive) :
    let streams := if settings.includeAdaptive then regular ++ adaptive else regular
    let title := (VideoInfo.ofBody response.text).title.getD ""
    let run := (resolve settings id).runFrom network Trace.empty
    run.2.requests = [infoRequest settings id variant] ∧
      ∃ listing, run.1 = .ok listing ∧
        IsListing (streams.map (PlainStream.link title)) listing := by
  intro streams title run
  have hwrites : PlainStream.WritesMap streams
      (recordStreamMap settings (VideoInfo.ofBody response.text)) :=
    hbody.writesMap_recordStreamMap settings
  have hscrambled := hwrites.not_isScrambled
  have hinfo := usableInfo?_of_first hvariants hanswer hbody.token
  have hmap : streamMapFor network settings id (VideoInfo.ofBody response.text) =
      .ok (recordStreamMap settings (VideoInfo.ofBody response.text)) := by
    unfold streamMapFor chosenStreamMap
    rw [if_neg (by simp [hscrambled])]
  have hopening : openingRequests network settings id (VideoInfo.ofBody response.text) =
      [infoRequest settings id variant] := by
    unfold openingRequests streamMapRequests
    rw [infoRequests_of_first hvariants hanswer hbody.token, if_neg (by simp [hscrambled]),
      List.append_nil]
  have hentries : entriesOf (recordStreamMap settings (VideoInfo.ofBody response.text)) =
      streams.map PlainStream.entry := hwrites.entries_eq
  obtain ⟨hresult, hrequests⟩ := (resolve_course hinfo hmap).requests_eq
  rw [hopening, hentries] at hrequests hresult
  constructor
  · rw [hrequests, entryRequests_of_plain (forall_mem_entries streams) hprobe,
      List.append_nil]
  · unfold listingResult at hresult
    rw [firstFailure_of_plain (forall_mem_entries streams)] at hresult
    obtain ⟨-, -, hlists⟩ := lists_located hinfo hmap hresult
    refine ⟨_, hresult, ?_⟩
    rw [hopening, hentries, kept, if_neg (by simp [hprobe])] at hlists
    have hlisting := hlists.isListing
    rwa [map_toLink_of_plain] at hlisting

/-! ## A record for any streams -/

theorem describes_of_writesQuery {pairs : List (String × String)}
    {body token map adaptiveMap : String} (hbody : Query.WritesQuery pairs body.toList)
    (hnodup : (pairs.map Prod.fst).Nodup) (htoken : ("token", token) ∈ pairs)
    (hnonEmpty : token ≠ "") (hmap : ("url_encoded_fmt_stream_map", map) ∈ pairs)
    (hregular : PlainStream.WritesMap regular map)
    (hadaptiveMap : ("adaptive_fmts", adaptiveMap) ∈ pairs)
    (hadaptive : PlainStream.WritesMap adaptive adaptiveMap) :
    Describes body regular adaptive := by
  constructor
  · exact ⟨token, (hbody.holds hnodup htoken).get?_parse, hnonEmpty⟩
  · exact ⟨map, hregular, hbody.holds hnodup hmap⟩
  · exact ⟨adaptiveMap, hadaptive, hbody.holds hnodup hadaptiveMap⟩

theorem title_of_writesQuery {pairs : List (String × String)} {body : String}
    (hbody : Query.WritesQuery pairs body.toList) (hnodup : (pairs.map Prod.fst).Nodup)
    (htitle : ("title", title) ∈ pairs) : (VideoInfo.ofBody body).title = some title :=
  (hbody.holds hnodup htitle).get?_parse

def recordPairs (title : String) (regular adaptive : List PlainStream) :
    List (String × String) :=
  [("token", "t"), ("title", title),
    ("url_encoded_fmt_stream_map", PlainStream.writeMap regular),
    ("adaptive_fmts", PlainStream.writeMap adaptive)]

/-- A record that describes the streams. -/
def describe (title : String) (regular adaptive : List PlainStream) : String :=
  String.ofList (Query.writeQuery (recordPairs title regular adaptive))

theorem writesQuery_describe (title : String) (regular adaptive : List PlainStream) :
    Query.WritesQuery (recordPairs title regular adaptive)
      (describe title regular adaptive).toList := by
  rw [describe, String.toList_ofList]
  exact Query.writesQuery_writeQuery _

theorem nodup_recordPairs (title : String) (regular adaptive : List PlainStream) :
    ((recordPairs title regular adaptive).map Prod.fst).Nodup := by
  simp [recordPairs]

theorem describes_describe (title : String) (regular adaptive : List PlainStream) :
    Describes (describe title regular adaptive) regular adaptive := by
  have htoken : ("token", "t") ∈ recordPairs title regular adaptive := by simp [recordPairs]
  have hmap : ("url_encoded_fmt_stream_map", PlainStream.writeMap regular) ∈
      recordPairs title regular adaptive := by simp [recordPairs]
  have hadaptiveMap : ("adaptive_fmts", PlainStream.writeMap adaptive) ∈
      recordPairs title regular adaptive := by simp [recordPairs]
  exact describes_of_writesQuery (writesQuery_describe title regular adaptive)
    (nodup_recordPairs title regular adaptive) htoken (by decide)
    hmap (PlainStream.writesMap_writeMap regular)
    hadaptiveMap (PlainStream.writesMap_writeMap adaptive)

theorem title_describe (title : String) (regular adaptive : List PlainStream) :
    (VideoInfo.ofBody (describe title regular adaptive)).title = some title := by
  have htitle : ("title", title) ∈ recordPairs title regular adaptive := by simp [recordPairs]
  exact title_of_writesQuery (writesQuery_describe title regular adaptive)
    (nodup_recordPairs title regular adaptive) htitle

def markedStream : PlainStream :=
  ⟨"1", "http://h/?a=1,2&s=3%2c+\u00fc", some "video/mp4; codecs=\"a, b\"", some "", some "&s=,x",
    by decide, by decide⟩

def unmarkedStream : PlainStream :=
  ⟨"1", "http://h", none, none, none, by decide, by decide⟩

def markedVideo : VideoId := ⟨"marked", by decide, by decide⟩

def withoutProbes : PlatformSettings :=
  { infoUrl := "info", infoVariants := [""], probeStreams := false, includeAdaptive := true }

theorem infoRequest_withoutProbes :
    infoRequest withoutProbes markedVideo "" = ⟨.get, "info"⟩ := by
  decide +kernel

def markedRecord : Response where
  status := 500
  body := (describe "T" [markedStream, unmarkedStream] [markedStream]).toList.flatMap
    String.utf8EncodeChar

def markedRecords : Network where
  get _ _ := .ok markedRecord
  head _ _ := .error "none"

theorem text_markedRecord :
    markedRecord.text = describe "T" [markedStream, unmarkedStream] [markedStream] := by
  rw [Response.text, Text.decodeLossy, markedRecord, Query.decode?_utf8, Option.getD_some]

/-- Commas, ampersands, escapes and other letters come through, and the adaptive stream
stands for the regular ones with its itag. -/
theorem listing_of_marked_streams :
    ((resolve withoutProbes markedVideo).runFrom markedRecords Trace.empty).2.requests =
        [⟨.get, "info"⟩] ∧
      ((resolve withoutProbes markedVideo).runFrom markedRecords Trace.empty).1 =
        .ok [markedStream.link "T"] := by
  have hvariants : withoutProbes.infoVariants = [""] := rfl
  have hprobe : withoutProbes.probeStreams = false := rfl
  have hanswer : markedRecords.get [] (withoutProbes.infoUrlFor markedVideo.text "") =
      .ok markedRecord := rfl
  have hbody : Describes markedRecord.text [markedStream, unmarkedStream] [markedStream] := by
    rw [text_markedRecord]
    exact describes_describe "T" _ _
  obtain ⟨hrequests, listing, hlisting, hlisted⟩ :=
    listing_of_plain_streams hvariants hprobe hanswer hbody
  rw [text_markedRecord, title_describe, Option.getD_some] at hlisted
  have hitags : listing.map StreamLink.itag = ["1"] := hlisted.itags.trans (by decide)
  obtain ⟨link, rfl, hitag⟩ := List.map_eq_singleton_iff.mp hitags
  have hlink := hlisted.last link List.mem_cons_self
  rw [hitag] at hlink
  have hlast : some (markedStream.link "T") = some link := hlink
  rw [← Option.some.inj hlast] at hlisting
  rw [infoRequest_withoutProbes] at hrequests
  exact ⟨hrequests, hlisting⟩

end StreamLinks.Resolution
