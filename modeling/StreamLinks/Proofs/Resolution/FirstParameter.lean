import StreamLinks.Proofs.Query.RoundTrip
import StreamLinks.Proofs.Resolution.Identifiers

/-!
# The first parameter `v`

Input that is the URL of a page with a query names the video in the first parameter `v`, which
is read back whatever text it holds.  A blank value names no video, and none is looked for in
the parameters behind it or in the URL as a whole.  It does not matter how domain names are
brought into ASCII form, as long as the address itself has a host.
-/

namespace StreamLinks

open Text (IsGap)

/-- The text is the URL of a page on a host, without a query, a fragment or white space. -/
structure IsAddress (toAscii? : Url.ToAscii) (text : List Char) : Prop where
  leads : ∃ url, Url.parse? (String.ofList text) toAscii? = some url ∧ url.host.isSome = true
  bare : Url.IsBare text
  unspaced : ∀ c ∈ text, Text.isSpace c = false

/-- The input is an address with a form encoding of the pairs as its query, perhaps a fragment
behind it, and white space around it. -/
inductive Carries (toAscii? : Url.ToAscii) (pairs : List (String × String)) :
    (input : String) → Prop
  | written {lead address fragment trail : List Char} {query : String} (hlead : IsGap lead)
      (haddress : IsAddress toAscii? address) (hquery : Query.FormWritesQuery pairs query)
      (hfragment : IsFragment fragment) (htrail : IsGap trail) :
      Carries toAscii? pairs
        (String.ofList (lead ++ (address ++ '?' :: (query.toList ++ fragment)) ++ trail))

/-- The value is that of the first pair with the key `v`. -/
def IsFirstValue (pairs : List (String × String)) (value : String) : Prop :=
  ∃ front back, pairs = front ++ ("v", value) :: back ∧ ∀ pair ∈ front, pair.1 ≠ "v"

variable {toAscii? : Url.ToAscii} {pairs : List (String × String)} {input : String}

theorem isFirstValue_iff {value : String} :
    IsFirstValue pairs value ↔ pairs.find? (fun pair => pair.1 == "v") = some ("v", value) := by
  rw [List.find?_eq_some_iff_append]
  simp [IsFirstValue]

theorem isSpace_of_isQueryChar {c : Char} (hc : Query.IsQueryChar c) :
    Text.isSpace c = false := by
  obtain ⟨hlow, hhigh, -⟩ := hc
  simp [Text.isSpace]
  omega

/-- Trimming leaves the address and the query as they are. -/
theorem trimString_of_parts {lead address fragment trail : List Char} {query : String}
    (hlead : IsGap lead) (haddress : IsAddress toAscii? address)
    (hquery : Query.FormWritesQuery pairs query) (hfragment : IsFragment fragment)
    (htrail : IsGap trail) :
    ∃ fragment', IsFragment fragment' ∧
      Text.trimString
          (String.ofList (lead ++ (address ++ '?' :: (query.toList ++ fragment)) ++ trail)) =
        String.ofList (address ++ '?' :: (query.toList ++ fragment')) := by
  have hfront : ∀ c ∈ address ++ '?' :: query.toList, Text.isSpace c = false := by
    intro c hc
    rcases List.mem_append.mp hc with hc | hc
    · exact haddress.unspaced c hc
    · rcases List.mem_cons.mp hc with rfl | hc
      · decide
      · exact isSpace_of_isQueryChar (hquery.isQueryChar c hc)
  have hsplit : ∀ fragment, address ++ '?' :: (query.toList ++ fragment) =
      (address ++ '?' :: query.toList) ++ fragment := by simp
  refine ⟨Text.dropEndWhile Text.isSpace fragment, hfragment.dropEndWhile (by decide), ?_⟩
  rw [Text.trimString, String.toList_ofList, Text.trim_append_gap htrail,
    Text.trim_gap_append hlead, hsplit, Text.trim_append hfront (by simp), hsplit]

theorem Carries.toOption_identify (hcarries : Carries toAscii? pairs input) :
    (identify input toAscii?).toOption = (pairs.find? fun pair => pair.1 == "v").bind fun pair =>
      VideoId.ofString? pair.2 := by
  cases hcarries with
  | @written lead address fragment trail query hlead haddress hquery hfragment htrail =>
      obtain ⟨fragment', hfragment', htrim⟩ :=
        trimString_of_parts hlead haddress hquery hfragment htrail
      obtain ⟨url, hurl, hhost⟩ := haddress.leads
      have hparse := Url.parse?_append_query hurl hhost haddress.bare
        (fun c hc => ⟨(hquery.isQueryChar c hc).1, (hquery.isQueryChar c hc).2.2⟩) hfragment'
      rw [StreamLinks.toOption_identify, htrim, idOfTrimmed?, hparse]
      dsimp only
      rw [if_pos hhost, Option.getD_some, String.ofList_toList, idInQuery?,
        hquery.writesQuery.pairsLossy_eq]

theorem identify_eq_error (hnone : (identify input toAscii?).toOption = none) :
    identify input toAscii? = .error (.invalidIdentifier (Text.trimString input)) := by
  rw [toOption_identify] at hnone
  rw [identify, hnone]

/-- Input that carries pairs is read as the trimmed value of the first pair with the key `v`,
and is rejected if there is none or if this value is blank.  Whatever the input is, what it is
read as is not empty and has no white space at its ends. -/
theorem first_parameter_decides (toAscii? : Url.ToAscii) :
    (∀ (pairs : List (String × String)) (input : String), Carries toAscii? pairs input →
      (∀ value, IsFirstValue pairs value → Text.isBlank value = false →
        ∃ id, identify input toAscii? = .ok id ∧ id.text = Text.trimString value) ∧
      ((∀ value, IsFirstValue pairs value → Text.isBlank value = true) →
        identify input toAscii? = .error (.invalidIdentifier (Text.trimString input)))) ∧
    ∀ (input : String) (id : VideoId), identify input toAscii? = .ok id →
      id.text ≠ "" ∧ (∀ c, id.text.toList.head? = some c → Text.isSpace c = false) ∧
        ∀ c, id.text.toList.getLast? = some c → Text.isSpace c = false := by
  refine ⟨fun pairs input hcarries => ⟨?_, ?_⟩, ?_⟩
  · intro value hfirst hvalue
    have hne : Text.trimString value ≠ "" := by
      rw [Ne, Text.trimString_eq_empty_iff, hvalue]
      decide
    have hread := hcarries.toOption_identify
    rw [isFirstValue_iff.mp hfirst, Option.bind_some, VideoId.ofString?, dif_pos hne] at hread
    exact ⟨_, toOption_eq_some.mp hread, rfl⟩
  · intro hblank
    apply identify_eq_error
    rw [hcarries.toOption_identify, Option.bind_eq_none_iff]
    rintro ⟨key, value⟩ hfind
    have hkey : key = "v" := by simpa using List.find?_some hfind
    rw [hkey, ← isFirstValue_iff] at hfind
    have hempty := Text.trimString_eq_empty_iff.mpr (hblank value hfind)
    exact dif_neg (not_not.mpr hempty)
  · intro input id _
    have htrimmed := congrArg String.toList id.trimmed
    rw [Text.trimString, String.toList_ofList] at htrimmed
    exact ⟨id.nonempty, Text.trim_eq_self_iff.mp htrimmed⟩

/-- A value with white space and a mark of queries counts before a later one, and so does a
blank value. -/
theorem first_of_two_parameters_decides :
    (∃ id, identify "\n https://www.youtube.com/watch?v=+a%26b%20&v=c#t=9s " = .ok id ∧
      id.text = "a&b") ∧
    identify "https://www.youtube.com/watch?v=%20&v=c" =
      .error (.invalidIdentifier "https://www.youtube.com/watch?v=%20&v=c") := by
  have haddress : IsAddress Url.domainToAscii? "https://www.youtube.com/watch".toList := by
    have hhost : ((Url.parse? "https://www.youtube.com/watch").bind Url.host).isSome = true := by
      decide +kernel
    obtain ⟨host, hfound⟩ := Option.isSome_iff_exists.mp hhost
    obtain ⟨url, hurl, hhost⟩ := Option.bind_eq_some_iff.mp hfound
    have hletters : ∀ c ∈ "https://www.youtube.com/watch".toList,
        (decide (0x20 < c.toNat ∧ c ≠ '?' ∧ c ≠ '#') && !Text.isSpace c) = true :=
      List.all_eq_true.mp (by decide +kernel)
    refine ⟨⟨url, by rwa [String.ofList_toList], by rw [hhost, Option.isSome_some]⟩, ?_, ?_⟩
    · exact fun c hc => of_decide_eq_true (Bool.and_eq_true_iff.mp (hletters c hc)).1
    · exact fun c hc => by simpa using (Bool.and_eq_true_iff.mp (hletters c hc)).2
  have hletter : ∀ byte, Query.isUnreserved byte = true →
      Query.FormEncodes [byte] [Char.ofUInt8 byte] := fun _ hbyte => .unreserved hbyte .done
  have hkey : Query.FormWrites "v" "v".toList := hletter 0x76 rfl
  have hlater : Query.FormWritesPair ("v", "c") "v=c".toList :=
    ⟨_, _, hkey, hletter 0x63 rfl, by decide +kernel⟩
  have hmarked : Query.FormWritesPair ("v", " a&b ") "v=+a%26b%20".toList :=
    ⟨_, "+a%26b%20".toList, hkey, .blank (.unreserved rfl (.escape rfl rfl rfl (.unreserved rfl
      (.escape rfl rfl rfl .done)))), by decide +kernel⟩
  have hblank : Query.FormWritesPair ("v", " ") "v=%20".toList :=
    ⟨_, "%20".toList, hkey, .escape rfl rfl rfl .done, by decide +kernel⟩
  have hfirst : Carries Url.domainToAscii? [("v", " a&b "), ("v", "c")]
      "\n https://www.youtube.com/watch?v=+a%26b%20&v=c#t=9s " := by
    have hquery : Query.FormWritesQuery [("v", " a&b "), ("v", "c")] "v=+a%26b%20&v=c" :=
      ⟨_, .cons hmarked (.cons hlater .nil), by decide +kernel⟩
    have htext : "\n https://www.youtube.com/watch?v=+a%26b%20&v=c#t=9s " =
        String.ofList (['\n', ' '] ++ ("https://www.youtube.com/watch".toList ++
          '?' :: ("v=+a%26b%20&v=c".toList ++ "#t=9s".toList)) ++ [' ']) := by decide +kernel
    have hlead : IsGap ['\n', ' '] := List.all_eq_true.mp (by decide)
    have hfragment : IsFragment "#t=9s".toList := fun c hc => (Option.some.inj hc).symm
    rw [htext]
    exact .written hlead haddress hquery hfragment Text.isGap_space
  have hsecond : Carries Url.domainToAscii? [("v", " "), ("v", "c")]
      "https://www.youtube.com/watch?v=%20&v=c" := by
    have hquery : Query.FormWritesQuery [("v", " "), ("v", "c")] "v=%20&v=c" :=
      ⟨_, .cons hblank (.cons hlater .nil), by decide +kernel⟩
    have htext : "https://www.youtube.com/watch?v=%20&v=c" =
        String.ofList ([] ++ ("https://www.youtube.com/watch".toList ++
          '?' :: ("v=%20&v=c".toList ++ [])) ++ []) := by decide +kernel
    have hfragment : IsFragment [] := fun c hc => by cases hc
    rw [htext]
    exact .written Text.isGap_nil haddress hquery hfragment Text.isGap_nil
  have honly : ∀ value, IsFirstValue [("v", " "), ("v", "c")] value →
      Text.isBlank value = true := by
    intro value hvalue
    obtain rfl : " " = value := by simpa using isFirstValue_iff.mp hvalue
    decide +kernel
  have hmarkedFirst : IsFirstValue [("v", " a&b "), ("v", "c")] " a&b " := ⟨[], _, rfl, by simp⟩
  have htrim : Text.trimString " a&b " = "a&b" := by decide +kernel
  have htrim' : Text.trimString "https://www.youtube.com/watch?v=%20&v=c" =
      "https://www.youtube.com/watch?v=%20&v=c" := by decide +kernel
  have hread :=
    ((first_parameter_decides Url.domainToAscii?).1 _ _ hfirst).1 _ hmarkedFirst (by decide +kernel)
  have hrejected := ((first_parameter_decides Url.domainToAscii?).1 _ _ hsecond).2 honly
  rw [htrim] at hread
  rw [htrim'] at hrejected
  exact ⟨hread, hrejected⟩

end StreamLinks
