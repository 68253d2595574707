import Mathlib.Data.List.TakeWhile
import StreamLinks.Proofs.Outcome
import StreamLinks.Proofs.Url.Parts
import StreamLinks.Proofs.Verbatim
import StreamLinks.Resolution.Identifier
import StreamLinks.Settings.Basic

/-!
# Identifiers in watch URLs

The URL of a watch page has the identifier put in as it is, and is read as URLs are: tabs
and line breaks are left out, `#` ends the query and `&` the value, and what is left is
decoded as a form.  So the URL gives back what reading makes of the identifier, which is
the identifier itself if nothing in it means something to the reader.
-/

namespace StreamLinks

/-! ## Watch URLs -/

/-- What stands in front of the identifier, and what stands behind it. -/
def watchFront : List Char :=
  "https://www.youtube.com/watch?v=".toList

def watchBack : List Char :=
  "&gl=US&hl=en&has_verified=1".toList

theorem toList_watchUrlFor (id : String) :
    (PlatformSettings.watchUrlFor {} id).toList = watchFront ++ (id.toList ++ watchBack) := by
  have htemplate : ({} : PlatformSettings).watchUrl.toList =
      watchFront ++ ('{' :: "video_id\x7d".toList ++ watchBack) := by decide +kernel
  have hplaceholder : "\x7bvideo_id\x7d".toList = '{' :: "video_id\x7d".toList := by
    decide +kernel
  have hfront : '{' ∉ watchFront := by decide +kernel
  have hback : '{' ∉ watchBack := by decide +kernel
  have hrest := Text.replaceFrom_front hback "video_id\x7d".toList id.toList []
  rw [List.append_nil, Text.replaceFrom, List.append_nil] at hrest
  unfold PlatformSettings.watchUrlFor Text.replaceAll
  rw [String.toList_ofList, htemplate, hplaceholder, Text.replaceFrom_front hfront,
    Text.replaceFrom_literal, hrest]

/-- Watch URLs have plain ends, whatever stands between these. -/
theorem watchUrl_ends (value : List Char) :
    ∃ middle, watchFront ++ (value ++ watchBack) = 'h' :: (middle ++ ['1']) := by
  have hfront : watchFront = 'h' :: "ttps://www.youtube.com/watch?v=".toList := by decide +kernel
  have hback : watchBack = "&gl=US&hl=en&has_verified=".toList ++ ['1'] := by decide +kernel
  refine ⟨"ttps://www.youtube.com/watch?v=".toList ++
    (value ++ "&gl=US&hl=en&has_verified=".toList), ?_⟩
  rw [hfront, hback, List.cons_append, List.append_assoc, List.append_assoc]

theorem trimString_watchUrlFor (id : String) :
    Text.trimString (PlatformSettings.watchUrlFor {} id) = PlatformSettings.watchUrlFor {} id := by
  obtain ⟨middle, hmiddle⟩ := watchUrl_ends id.toList
  rw [Text.trimString, toList_watchUrlFor, hmiddle, Text.trim_of_ends (by decide) (by decide),
    ← hmiddle, ← toList_watchUrlFor, String.ofList_toList]

theorem cleaned_watchUrl (value : List Char) :
    Url.cleaned (watchFront ++ (value ++ watchBack)) =
      watchFront ++ ((value.filter fun c => !isDropped c) ++ watchBack) := by
  have hfront : (watchFront.filter fun c => !isDropped c) = watchFront := by decide +kernel
  have hback : (watchBack.filter fun c => !isDropped c) = watchBack := by decide +kernel
  obtain ⟨middle, hmiddle⟩ := watchUrl_ends value
  rw [hmiddle, cleaned_of_ends (by decide) (by decide), ← hmiddle, List.filter_append,
    List.filter_append, hfront, hback]

/-- The host of watch URLs is found, and their query holds the identifier without the
characters that are left out, up to the first `#`. -/
theorem parse?_watchUrlFor (id : String) :
    ∃ url, Url.parse? (PlatformSettings.watchUrlFor {} id) = some url ∧ url.host.isSome ∧
      url.query = some ("v=".toList ++
        ((id.toList.filter fun c => !isDropped c) ++ watchBack).takeWhile (· != '#')) := by
  obtain ⟨rest, hrest⟩ : ∃ rest, rest = (id.toList.filter fun c => !isDropped c) ++ watchBack :=
    ⟨_, rfl⟩
  have hcleaned : Url.cleaned (watchFront ++ (id.toList ++ watchBack)) = "https".toList ++
      ':' :: (['/', '/'] ++ ("www.youtube.com".toList ++ '/' :: ("watch?v=".toList ++ rest))) := by
    have hfront : watchFront = "https".toList ++
        ':' :: (['/', '/'] ++ ("www.youtube.com".toList ++ '/' :: "watch?v=".toList)) := by
      decide +kernel
    rw [cleaned_watchUrl, hfront, ← hrest]
    simp only [List.append_assoc, List.cons_append]
  have hscheme : Text.lowerAscii (String.ofList "https".toList) = "https" := by decide +kernel
  have hserver : "www.youtube.com".toList = 'w' :: "ww.youtube.com".toList := by decide +kernel
  have hslashes : Text.IsRun (Url.isSlash true) ['/', '/']
      ("www.youtube.com".toList ++ '/' :: ("watch?v=".toList ++ rest)) := by
    rw [hserver]
    exact .of_next (List.all_eq_true.mp (by decide)) (by decide) _
  have hhost : Url.authorityHost? Url.domainToAscii? true true "www.youtube.com".toList =
      some (some (.domain "www.youtube.com")) := by decide +kernel
  obtain ⟨url, hurl, hfound, hparsed⟩ := Url.parse?_web hcleaned
    (.of_next (List.all_eq_true.mp (by decide +kernel)) (by decide) _) (by decide +kernel) hscheme
    (by decide) hslashes (.of_next (List.all_eq_true.mp (by decide +kernel)) (by decide) _) hhost
  have hpath : Text.IsRun (· != '?') "/watch".toList
      ('?' :: ("v=".toList ++ rest.takeWhile (· != '#'))) :=
    .of_next (List.all_eq_true.mp (by decide +kernel)) (by decide) _
  have hquery : ('/' :: ("watch?v=".toList ++ rest)).takeWhile (· != '#') = "/watch".toList ++
      '?' :: ("v=".toList ++ rest.takeWhile (· != '#')) := by
    simp
  refine ⟨url, ?_, by simp [hfound], ?_⟩
  · rw [← hurl, ← toList_watchUrlFor, String.ofList_toList]
  · rw [hparsed, hquery, hpath.dropWhile_eq, hrest]

/-! ## Reading identifiers back -/

/-- The part of an identifier that the query of its watch URL gives as the value. -/
def shownPart (id : String) : List Char :=
  (id.toList.filter fun c => !isDropped c).takeWhile fun c => c != '#' && c != '&'

/-- The parameters of a URL. -/
def parametersOf? (url : String) : Option (List (String × String)) :=
  (Url.parse? url).map fun url => Query.pairsLossy (String.ofList (url.query.getD []))

/-- The identifier stands in a URL as it is: nothing in it ends the value or the query, is
left out, or is read as something else. -/
structure StandsInUrl (id : List Char) : Prop where
  plain : Query.IsPlainValue id
  fragment_not_mem : '#' ∉ id
  kept : ∀ c ∈ id, isDropped c = false

theorem takeWhile_watchUrlValue (id : String) :
    (((id.toList.filter fun c => !isDropped c) ++ watchBack).takeWhile (· != '#')).takeWhile
      (· != '&') = shownPart id := by
  have hback : watchBack.takeWhile (fun c => c != '#' && c != '&') = [] := by decide +kernel
  have hboth : ∀ text : List Char, (text.takeWhile (· != '#')).takeWhile (· != '&') =
      text.takeWhile fun c => c != '#' && c != '&' := by
    intro text
    rw [List.takeWhile_takeWhile]
    congr 1
    funext c
    simp [bne, Bool.beq_eq_decide_eq, Bool.and_comm]
  rw [hboth, shownPart, List.takeWhile_append]
  split
  next hwhole =>
    rw [hback, List.append_nil]
    exact ((List.takeWhile_prefix _).eq_of_length hwhole).symm
  next => rfl

theorem first_piece_of_query (id : String) :
    ∃ pieces, Text.splitAt '&' ("v=".toList ++
        ((id.toList.filter fun c => !isDropped c) ++ watchBack).takeWhile (· != '#')) =
      ("v=".toList ++ shownPart id) :: pieces := by
  have hname : '&' ∉ "v=".toList := by decide +kernel
  obtain ⟨pieces, hsplit⟩ := Text.splitAt_eq_cons '&'
    (((id.toList.filter fun c => !isDropped c) ++ watchBack).takeWhile (· != '#'))
  rw [takeWhile_watchUrlValue] at hsplit
  exact ⟨pieces, Text.splitAt_append_front hname hsplit⟩

theorem pairsLossy_of_first_piece {query value : List Char} {pieces : List (List Char)}
    (hsplit : Text.splitAt '&' query = ("v=".toList ++ value) :: pieces) :
    Query.pairsLossy (String.ofList query) =
      ("v", Text.decodeLossy (Query.formBytes value)) ::
        ((pieces.filter (!·.isEmpty)).map fun piece =>
          (Text.cutAt? '=' piece).getD (piece, [])).map fun pair =>
            (Text.decodeLossy (Query.formBytes pair.1),
              Text.decodeLossy (Query.formBytes pair.2)) := by
  have hname : "v=".toList = ['v', '='] := by decide +kernel
  have hcut : Text.cutAt? '=' ('v' :: '=' :: value) = some (['v'], value) :=
    Text.cutAt?_eq_some.mpr ⟨rfl, by decide⟩
  have hkey : Text.decodeLossy (Query.formBytes ['v']) = "v" := by decide +kernel
  rw [hname] at hsplit
  unfold Query.pairsLossy Query.rawPairs
  rw [String.toList_ofList, hsplit]
  simp [hcut, hkey]

theorem toOption_identify (input : String) (toAscii? : Url.ToAscii) :
    (identify input toAscii?).toOption = idOfTrimmed? toAscii? (Text.trimString input) := by
  simp only [identify]
  split
  next found hfound => exact hfound.symm
  next hnone => exact hnone.symm

theorem toOption_identify_watchUrlFor (id : String) :
    (identify (PlatformSettings.watchUrlFor {} id)).toOption =
      VideoId.ofString? (Text.decodeLossy (Query.formBytes (shownPart id))) := by
  obtain ⟨url, hurl, hhost, hquery⟩ := parse?_watchUrlFor id
  obtain ⟨pieces, hsplit⟩ := first_piece_of_query id
  rw [toOption_identify, trimString_watchUrlFor, idOfTrimmed?, hurl]
  dsimp only
  rw [if_pos hhost, hquery, Option.getD_some, idInQuery?, pairsLossy_of_first_piece hsplit,
    List.find?_cons_of_pos (by simp), Option.bind_some]

theorem StandsInUrl.filter_eq {id : List Char} (hstands : StandsInUrl id) :
    (id.filter fun c => !isDropped c) = id := by
  apply List.filter_eq_self.mpr
  intro c hc
  rw [hstands.kept c hc, Bool.not_false]

theorem StandsInUrl.shownPart_eq {id : String} (hstands : StandsInUrl id.toList) :
    shownPart id = id.toList := by
  have hunmarked : ∀ c ∈ id.toList, (c != '#' && c != '&') = true := by
    intro c hc
    have hfragment : c ≠ '#' := fun h => hstands.fragment_not_mem (h ▸ hc)
    have hwhole : c ≠ '&' := fun h => hstands.plain.whole (h ▸ hc)
    simp [hfragment, hwhole]
  rw [shownPart, hstands.filter_eq, List.takeWhile_eq_self_iff]
  exact hunmarked

theorem VideoId.ofString?_eq_some {text : String} {id : VideoId} :
    ofString? text = some id ↔ Text.trimString text = id.text := by
  rw [ofString?, dite_eq_iff']
  constructor
  · intro h
    by_cases htext : Text.trimString text ≠ ""
    · cases h.1 htext
      rfl
    · cases h.2 htext
  · intro htext
    refine ⟨?_, ?_⟩
    · intro _
      rw [Option.some.injEq, VideoId.mk.injEq, htext]
    · intro hempty
      rw [htext] at hempty
      exact (hempty id.nonempty).elim

theorem shownPart_sublist (id : String) :
    (shownPart id).Sublist (id.toList.filter fun c => !isDropped c) :=
  List.takeWhile_sublist _

/-- Decoding and trimming add no graphic characters, so what comes back whole was read as it
stands, and nothing in front of it, within it or behind it was lost. -/
theorem standsInUrl_of_shown {id : String}
    (hback : Text.trimString (Text.decodeLossy (Query.formBytes (shownPart id))) = id) :
    StandsInUrl id.toList := by
  have hfiltered := shownPart_sublist id
  have hshown := hfiltered.trans List.filter_sublist
  have htrimmed := Text.trim_sublist (Text.decodeLossy (Query.formBytes (shownPart id))).toList
  rw [← String.toList_ofList (l := Text.trim _), ← Text.trimString, hback] at htrimmed
  have hverbatim : Query.IsVerbatim (shownPart id) := by
    apply Query.isVerbatim_of_graphicBytes
    calc Query.graphics (shownPart id)
        ≤ Query.graphics id.toList := hshown.countP_le
      _ ≤ Query.graphics (Text.decodeLossy (Query.formBytes (shownPart id))).toList :=
        htrimmed.countP_le
      _ ≤ Query.graphicBytes (Query.formBytes (shownPart id)) := Query.graphics_decodeLossy_le _
  rw [hverbatim.decodeLossy_eq, String.toList_ofList] at htrimmed
  have hwhole : shownPart id = id.toList := hshown.antisymm htrimmed
  have hkept : (id.toList.filter fun c => !isDropped c) = id.toList := by
    rw [hwhole] at hfiltered
    exact List.filter_sublist.antisymm hfiltered
  have hunmarked : ∀ c ∈ id.toList, (c != '#' && c != '&') = true := by
    rw [← List.takeWhile_eq_self_iff]
    rwa [shownPart, hkept] at hwhole
  refine ⟨⟨?_, hwhole ▸ hverbatim⟩, ?_, ?_⟩
  · intro hmem
    cases hunmarked '&' hmem
  · intro hmem
    cases hunmarked '#' hmem
  · intro c hc
    have hc := List.filter_eq_self.mp hkept c hc
    rwa [Bool.not_eq_true'] at hc

theorem StandsInUrl.splitAt_query {id : String} (hstands : StandsInUrl id.toList) :
    Text.splitAt '&' ("v=".toList ++
        ((id.toList.filter fun c => !isDropped c) ++ watchBack).takeWhile (· != '#')) =
      ["v=".toList ++ id.toList, "gl=US".toList, "hl=en".toList, "has_verified=1".toList] := by
  have hname : '&' ∉ "v=".toList := by decide +kernel
  have hback : Text.splitAt '&' watchBack =
      [[], "gl=US".toList, "hl=en".toList, "has_verified=1".toList] := by decide +kernel
  have hbehind : ∀ c ∈ watchBack, (c != '#') = true := List.all_eq_true.mp (by decide +kernel)
  have hend : ∀ c ∈ id.toList ++ watchBack, (c != '#') = true := by
    intro c hc
    rcases List.mem_append.mp hc with hc | hc
    · have hfragment : c ≠ '#' := fun h => hstands.fragment_not_mem (h ▸ hc)
      simp [hfragment]
    · exact hbehind c hc
  rw [hstands.filter_eq, List.takeWhile_eq_self_iff.mpr hend]
  have hsplit := Text.splitAt_append_front hname
    (Text.splitAt_append_front hstands.plain.whole hback)
  rwa [List.append_nil] at hsplit

/-- An identifier that stands in the URL is the value of its first parameter, and adds no
other. -/
theorem StandsInUrl.parametersOf?_eq {id : String} (hstands : StandsInUrl id.toList) :
    parametersOf? (PlatformSettings.watchUrlFor {} id) =
      some [("v", id), ("gl", "US"), ("hl", "en"), ("has_verified", "1")] := by
  obtain ⟨url, hurl, -, hquery⟩ := parse?_watchUrlFor id
  have hrest : ((["gl=US".toList, "hl=en".toList, "has_verified=1".toList].filter
      (!·.isEmpty)).map fun piece => (Text.cutAt? '=' piece).getD (piece, [])).map
        (fun pair => (Text.decodeLossy (Query.formBytes pair.1),
          Text.decodeLossy (Query.formBytes pair.2))) =
      [("gl", "US"), ("hl", "en"), ("has_verified", "1")] := by decide +kernel
  rw [parametersOf?, hurl, Option.map_some, hquery, Option.getD_some,
    pairsLossy_of_first_piece hstands.splitAt_query, hrest,
    hstands.plain.verbatim.decodeLossy_eq, String.ofList_toList]

/-- The watch URL of an identifier is read as that identifier, and has no parameters but its
own, if and only if the identifier stands in the URL as it is. -/
theorem watch_url_names_its_video (id : VideoId) :
    (identify (PlatformSettings.watchUrlFor {} id.text) = .ok id ↔ StandsInUrl id.text.toList) ∧
      (parametersOf? (PlatformSettings.watchUrlFor {} id.text) =
          some [("v", id.text), ("gl", "US"), ("hl", "en"), ("has_verified", "1")] ↔
        StandsInUrl id.text.toList) := by
  constructor
  · rw [← toOption_eq_some, toOption_identify_watchUrlFor, VideoId.ofString?_eq_some]
    constructor
    · exact standsInUrl_of_shown
    · intro hstands
      rw [hstands.shownPart_eq, hstands.plain.verbatim.decodeLossy_eq, String.ofList_toList,
        id.trimmed]
  · constructor
    · intro hparameters
      obtain ⟨url, hurl, -, hquery⟩ := parse?_watchUrlFor id.text
      obtain ⟨pieces, hsplit⟩ := first_piece_of_query id.text
      rw [parametersOf?, hurl, Option.map_some, hquery, Option.getD_some,
        pairsLossy_of_first_piece hsplit, Option.some.injEq, List.cons.injEq, Prod.mk.injEq]
        at hparameters
      apply standsInUrl_of_shown
      rw [hparameters.1.2, id.trimmed]
    · exact StandsInUrl.parametersOf?_eq

/-- An ampersand or a `#` cuts the identifier short, a plus sign is read as a blank, an escape
as the character that it writes, and a tab is left out. -/
theorem marked_identifiers_name_other_videos :
    ((identify "a&b").toOption.map VideoId.text = some "a&b" ∧
        (identify (PlatformSettings.watchUrlFor {} "a&b")).toOption.map VideoId.text =
          some "a") ∧
      ((identify "a#b").toOption.map VideoId.text = some "a#b" ∧
        (identify (PlatformSettings.watchUrlFor {} "a#b")).toOption.map VideoId.text =
          some "a") ∧
      ((identify "a+b").toOption.map VideoId.text = some "a+b" ∧
        (identify (PlatformSettings.watchUrlFor {} "a+b")).toOption.map VideoId.text =
          some "a b") ∧
      ((identify "a%41").toOption.map VideoId.text = some "a%41" ∧
        (identify (PlatformSettings.watchUrlFor {} "a%41")).toOption.map VideoId.text =
          some "aA") ∧
      ((identify "a\tb").toOption.map VideoId.text = some "a\tb" ∧
        (identify (PlatformSettings.watchUrlFor {} "a\tb")).toOption.map VideoId.text =
          some "ab") := by
  simp only [toOption_identify_watchUrlFor]
  decide +kernel

end StreamLinks
