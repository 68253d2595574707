import StreamLinks.Proofs.Json.Acceptance
import StreamLinks.Proofs.Json.Members
import StreamLinks.Proofs.Page.Braces
import StreamLinks.Proofs.Page.Search
import StreamLinks.Proofs.Resolution.Signatures

/-!
# The stream map of a page

The configuration of the player is the JSON object that starts at the first brace behind
`ytplayer.config =`.  Where that object ends is found by counting braces, and what it
holds is read as JSON; the two agree, so the stream map is what a reader of JSON would
take from the page, and nothing behind the object matters.
-/

namespace StreamLinks

namespace Page

open Json (HoldsLast IsObject maxDepth)

variable {page text tail : List Char}

/-! ## The place of the configuration -/

/-- What stands in front of the brace of a configuration. -/
inductive IsConfigLead : List Char → Prop
  | intro {gap gap' : List Char} (hgap : Text.IsGap gap) (hgap' : Text.IsGap gap') :
      IsConfigLead ("ytplayer.config".toList ++ (gap ++ '=' :: gap'))

/-- A configuration starts at the front of the text, and `tail` is the text from its brace
on. -/
def OpensConfig (text tail : List Char) : Prop :=
  ∃ lead, IsConfigLead lead ∧ text = lead ++ tail ∧ tail.head? = some '{'

/-- The first configuration of the page has its brace where `tail` starts. -/
def FirstConfig (page tail : List Char) : Prop :=
  ∃ front text, FirstPlace (fun text => ∃ tail, OpensConfig text tail) page front text ∧
    OpensConfig text tail

def configAt? (text : List Char) : Option (List Char) := do
  let text ← Text.after? "ytplayer.config".toList text
  let object ← afterMark? '=' text
  if object.head? = some '{' then some object else none

theorem configAt?_eq_some : configAt? text = some tail ↔ OpensConfig text tail := by
  have hmark : Text.isSpace '=' = false := by decide
  unfold configAt?
  constructor
  · intro hconfig
    obtain ⟨behind, hbehind, hconfig⟩ := Option.bind_eq_some_iff.mp hconfig
    obtain ⟨object, hobject, hconfig⟩ := Option.bind_eq_some_iff.mp hconfig
    split at hconfig
    next hbrace =>
      cases hconfig
      obtain ⟨gap, gap', hgap, hgap', rfl, -⟩ := (afterMark?_eq_some hmark).mp hobject
      refine ⟨_, .intro hgap hgap', ?_, hbrace⟩
      rw [Text.after?_eq_some.mp hbehind]
      simp
    next => cases hconfig
  · rintro ⟨lead, ⟨hgap, hgap'⟩, rfl, hbrace⟩
    rename_i gap gap'
    have hstops : ∀ c, tail.head? = some c → Text.isSpace c = false := by
      intro c hc
      rw [hbrace, Option.some.injEq] at hc
      rw [← hc]
      decide
    have hafter : afterMark? '=' (gap ++ '=' :: (gap' ++ tail)) = some tail :=
      (afterMark?_eq_some hmark).mpr ⟨gap, gap', hgap, hgap', rfl, hstops⟩
    have hbehind : Text.after? "ytplayer.config".toList
        ("ytplayer.config".toList ++ (gap ++ '=' :: gap') ++ tail) =
          some (gap ++ '=' :: (gap' ++ tail)) :=
      Text.after?_eq_some.mpr (by simp)
    exact Option.bind_eq_some_iff.mpr ⟨_, hbehind,
      Option.bind_eq_some_iff.mpr ⟨tail, hafter, if_pos hbrace⟩⟩

theorem playerConfig?_eq_some : playerConfig? page = some tail ↔ FirstConfig page tail := by
  have hsearch : playerConfig? page = firstInTails configAt? page := rfl
  rw [hsearch]
  exact firstInTails_iff configAt?_eq_some

theorem IsConfigLead.brace_not_mem {lead : List Char} (hlead : IsConfigLead lead) :
    '{' ∉ lead := by
  obtain ⟨hgap, hgap'⟩ := hlead
  have hname : '{' ∉ "ytplayer.config".toList := by decide +kernel
  have hfront := hgap.not_mem (by decide : Text.isSpace '{' = false)
  have hbehind := hgap'.not_mem (by decide : Text.isSpace '{' = false)
  rw [List.mem_append, List.mem_append, List.mem_cons]
  rintro (hmem | hmem | hequal | hmem)
  · exact hname hmem
  · exact hfront hmem
  · exact absurd hequal (by decide)
  · exact hbehind hmem

/-- A configuration that starts within a text with a brace behind it starts there whatever
follows the brace. -/
theorem opensConfig_of_middle {middle rest rest' : List Char}
    (hopens : OpensConfig (middle ++ '{' :: rest') tail) :
    ∃ tail', OpensConfig (middle ++ '{' :: rest) tail' := by
  obtain ⟨lead, hlead, htext, hbrace⟩ := hopens
  rcases List.append_eq_append_iff.mp htext with ⟨more, rfl, hrest⟩ | ⟨more, rfl, htail⟩
  · cases more with
    | nil =>
        rw [List.append_nil] at hlead
        exact ⟨'{' :: rest, middle, hlead, rfl, rfl⟩
    | cons c more =>
        obtain ⟨rfl, -⟩ := List.cons.inj hrest
        exact absurd hlead.brace_not_mem (by simp)
  · refine ⟨more ++ '{' :: rest, lead, hlead, List.append_assoc _ _ _, ?_⟩
    rw [htail] at hbrace
    cases more with
    | nil => rfl
    | cons c more => exact hbrace

/-- What follows the brace of the first configuration has no part in its being the first. -/
theorem FirstConfig.of_same_front {before rest : List Char}
    (hconfig : FirstConfig (before ++ '{' :: rest) ('{' :: rest)) (rest' : List Char) :
    FirstConfig (before ++ '{' :: rest') ('{' :: rest') := by
  obtain ⟨front, text, hplace, lead, hlead, rfl, -⟩ := hconfig
  have hbefore : before = front ++ lead := by
    have hpage := hplace.page_eq
    rw [← List.append_assoc] at hpage
    exact List.append_cancel_right hpage
  have hopens : OpensConfig (lead ++ '{' :: rest') ('{' :: rest') := ⟨lead, hlead, rfl, rfl⟩
  refine ⟨front, _, ⟨by rw [hbefore, List.append_assoc], ⟨_, hopens⟩, ?_⟩, hopens⟩
  rintro front' place hpage hlength ⟨tail, hearlier⟩
  obtain ⟨middle, hmiddle⟩ : front' <+: before := by
    have hlonger : front'.length ≤ before.length := by
      rw [hbefore, List.length_append]
      omega
    exact List.prefix_of_prefix_length_le ⟨place, hpage.symm⟩ (List.prefix_append before _) hlonger
  rw [← hmiddle, List.append_assoc, List.append_cancel_left_eq] at hpage
  rw [← hpage] at hearlier
  refine hplace.first front' (middle ++ '{' :: rest) ?_ hlength (opensConfig_of_middle hearlier)
  rw [← hmiddle, List.append_assoc]

theorem FirstConfig.of_same_object {before object rest : List Char} {depth : Nat}
    {members : List (String × Json)}
    (hconfig : FirstConfig (before ++ (object ++ rest)) (object ++ rest))
    (hobject : IsObject depth object members) (rest' : List Char) :
    FirstConfig (before ++ (object ++ rest')) (object ++ rest') := by
  have htext := Json.isObjectText_of_isObject hobject le_rfl
  obtain ⟨_, inner, -, rfl, -⟩ := exists_inner_of_object htext
  exact hconfig.of_same_front (inner ++ ['}'] ++ rest')

/-! ## The stream map in the configuration -/

/-- The stream map that the members of `args` give: the regular streams, and the adaptive
ones behind them if they are wanted and there are any. -/
inductive GivesStreamMap (args : List (String × Json)) (includeAdaptive : Bool) : String → Prop
  | regular {regular : String}
      (hregular : HoldsLast args "url_encoded_fmt_stream_map" (.string regular))
      (hadaptive : includeAdaptive = true → ∀ adaptive,
        HoldsLast args "adaptive_fmts" (.string adaptive) → adaptive = "") :
      GivesStreamMap args includeAdaptive regular
  | adaptive {regular adaptive : String}
      (hregular : HoldsLast args "url_encoded_fmt_stream_map" (.string regular))
      (hwanted : includeAdaptive = true)
      (hadaptive : HoldsLast args "adaptive_fmts" (.string adaptive)) (hne : adaptive ≠ "") :
      GivesStreamMap args includeAdaptive
        (if regular = "" then adaptive else regular ++ "," ++ adaptive)

/-- The first configuration of the page starts with a JSON object, and its `args` give the
stream map. -/
inductive ShowsStreamMap (page : List Char) (includeAdaptive : Bool) (map : String) : Prop
  | intro {object rest : List Char} {members args : List (String × Json)}
      (hplace : FirstConfig page (object ++ rest)) (hobject : IsObject maxDepth object members)
      (hargs : HoldsLast members "args" (.object args))
      (hmap : GivesStreamMap args includeAdaptive map)

variable {args : List (String × Json)} {includeAdaptive : Bool} {map : String}

theorem withAdaptive_of_unused {regular adaptive : String}
    (hempty : includeAdaptive = true → adaptive = "") :
    withAdaptive includeAdaptive regular (some adaptive) = regular := by
  cases includeAdaptive with
  | false => rfl
  | true => simp [withAdaptive, hempty]

theorem givesStreamMap_iff : GivesStreamMap args includeAdaptive map ↔
    ∃ regular, HoldsLast args "url_encoded_fmt_stream_map" (.string regular) ∧
      map = withAdaptive includeAdaptive regular
        (((Json.object args).member? "adaptive_fmts").bind Json.string?) := by
  have hfound (adaptive : String) :
      ((Json.object args).member? "adaptive_fmts").bind Json.string? = some adaptive ↔
        HoldsLast args "adaptive_fmts" (.string adaptive) := by
    simp [Option.bind_eq_some_iff, Json.member?_object, Json.string?_eq_some]
  constructor
  · rintro (⟨hregular, hadaptive⟩ | ⟨hregular, rfl, hadaptive, hne⟩)
    · refine ⟨map, hregular, ?_⟩
      cases hmember : ((Json.object args).member? "adaptive_fmts").bind Json.string? with
      | none => rfl
      | some adaptive =>
          refine (withAdaptive_of_unused fun hwanted => ?_).symm
          exact hadaptive hwanted adaptive ((hfound adaptive).mp hmember)
    · refine ⟨_, hregular, ?_⟩
      rw [(hfound _).mpr hadaptive]
      simp [withAdaptive, hne]
  · rintro ⟨regular, hregular, rfl⟩
    cases hmember : ((Json.object args).member? "adaptive_fmts").bind Json.string? with
    | none =>
        refine .regular hregular fun _ adaptive hadaptive => ?_
        rw [(hfound adaptive).mpr hadaptive] at hmember
        cases hmember
    | some adaptive =>
        have hadaptive := (hfound adaptive).mp hmember
        by_cases hused : includeAdaptive = true ∧ adaptive ≠ ""
        · have hmap := GivesStreamMap.adaptive hregular hused.1 hadaptive hused.2
          simpa [withAdaptive, hused.1, hused.2] using hmap
        · have hempty : includeAdaptive = true → adaptive = "" := by simpa using hused
          rw [withAdaptive_of_unused hempty]
          refine .regular hregular fun hwanted other hother => ?_
          have hsame : some other = some adaptive :=
            ((hfound other).mpr hother).symm.trans hmember
          rw [Option.some.inj hsame]
          exact hempty hwanted

/-- Objects that can be read are far from exhausting the counter of the search. -/
theorem matchingBrace?_read_object {object : List Char} {members : List (String × Json)}
    (hobject : IsObject maxDepth object members) (rest : List Char) :
    matchingBrace? (object ++ rest) = some object :=
  matchingBrace?_object (by decide) (Json.isObjectText_of_isObject hobject le_rfl) rest

/-- What the braces enclose is read as an object exactly if the text starts with that
object. -/
theorem matchingBrace?_read {taken : List Char} {members : List (String × Json)} :
    matchingBrace? text = some taken ∧ Json.parse? taken = some (.object members) ↔
      IsObject maxDepth taken members ∧ taken <+: text := by
  constructor
  · rintro ⟨htaken, hread⟩
    obtain ⟨hfront, hhead, -⟩ := matchingBrace?_front htaken
    obtain ⟨object, more, hsplit, hobject⟩ := Json.exists_object_of_parse? hhead hread
    obtain ⟨rest, rfl⟩ := hfront
    -- The braces are closed for the first time at the end of the object.
    have hclosed : matchingBrace? (taken ++ rest) = some object := by
      rw [hsplit, List.append_assoc]
      exact matchingBrace?_read_object hobject (more ++ rest)
    have hsame : taken = object := Option.some.inj (htaken.symm.trans hclosed)
    exact ⟨hsame ▸ hobject, List.prefix_append taken rest⟩
  · rintro ⟨hobject, rest, rfl⟩
    exact ⟨matchingBrace?_read_object hobject rest, Json.parse?_of_isObject hobject⟩

/-- The stream map in the text of a configuration. -/
def streamMapOf? (includeAdaptive : Bool) (object : List Char) : Option String := do
  let config ← Json.parse? object
  let args ← config.member? "args"
  let streamMap ← (← args.member? "url_encoded_fmt_stream_map").string?
  return withAdaptive includeAdaptive streamMap
    ((args.member? "adaptive_fmts").bind Json.string?)

theorem streamMap?_of_place {page : String} {tail : List Char}
    (hplace : FirstConfig page.toList tail) :
    streamMap? page includeAdaptive =
      (matchingBrace? tail).bind (streamMapOf? includeAdaptive) := by
  have htail : playerConfig? page.toList = some tail := playerConfig?_eq_some.mpr hplace
  unfold streamMap? streamMapOf?
  simp only [htail, Option.bind_eq_bind, Option.bind_some]

theorem streamMap?_eq_some {page : String} :
    streamMap? page includeAdaptive = some map ↔
      ShowsStreamMap page.toList includeAdaptive map := by
  constructor
  · intro hmap
    unfold streamMap? at hmap
    obtain ⟨tail, htail, hmap⟩ := Option.bind_eq_some_iff.mp hmap
    obtain ⟨object, htaken, hmap⟩ := Option.bind_eq_some_iff.mp hmap
    obtain ⟨config, hread, hmap⟩ := Option.bind_eq_some_iff.mp hmap
    obtain ⟨found, hfound, hmap⟩ := Option.bind_eq_some_iff.mp hmap
    obtain ⟨value, hvalue, hmap⟩ := Option.bind_eq_some_iff.mp hmap
    obtain ⟨regular, hstring, hmap⟩ := Option.bind_eq_some_iff.mp hmap
    obtain ⟨members, rfl, hargs⟩ := Json.member?_eq_some.mp hfound
    obtain ⟨hobject, rest, rfl⟩ := matchingBrace?_read.mp ⟨htaken, hread⟩
    obtain ⟨args, rfl, hregular⟩ := Json.member?_eq_some.mp hvalue
    rw [Json.string?_eq_some.mp hstring] at hregular
    exact ⟨playerConfig?_eq_some.mp htail, hobject, hargs,
      givesStreamMap_iff.mpr ⟨regular, hregular, (Option.some.inj hmap).symm⟩⟩
  · rintro ⟨hplace, hobject, hargs, hmap⟩
    rename_i object rest members args
    obtain ⟨regular, hregular, rfl⟩ := givesStreamMap_iff.mp hmap
    have hread : Json.parse? object = some (.object members) := Json.parse?_of_isObject hobject
    have hfound : (Json.object members).member? "args" = some (.object args) :=
      Json.member?_object.mpr hargs
    have hvalue : (Json.object args).member? "url_encoded_fmt_stream_map" =
        some (.string regular) := Json.member?_object.mpr hregular
    rw [streamMap?_of_place hplace, matchingBrace?_read_object hobject, Option.bind_some]
    simp [streamMapOf?, hread, hfound, hvalue, Json.string?]

theorem streamMap?_of_same_object {page page' : String} {before object rest rest' : List Char}
    {depth : Nat} {members : List (String × Json)}
    (hpage : page.toList = before ++ (object ++ rest))
    (hpage' : page'.toList = before ++ (object ++ rest'))
    (hplace : FirstConfig page.toList (object ++ rest))
    (hobject : IsObject depth object members) :
    streamMap? page' includeAdaptive = streamMap? page includeAdaptive := by
  have hplace' : FirstConfig page'.toList (object ++ rest') := by
    rw [hpage] at hplace
    rw [hpage']
    exact hplace.of_same_object hobject rest'
  have htext := Json.isObjectText_of_isObject hobject le_rfl
  rw [streamMap?_of_place hplace, streamMap?_of_place hplace',
    matchingBrace?_object_congr htext rest' rest]

/-- A page shows the stream map that its first configuration object holds as JSON, whatever
follows that object.  There is only one way to fail: that the page shows none. -/
theorem streamMap_agrees_with_json :
    (∀ (page : String) (includeAdaptive : Bool) (map : String),
      streamMap? page includeAdaptive = some map ↔
        ShowsStreamMap page.toList includeAdaptive map) ∧
    (∀ (page page' : String) (includeAdaptive : Bool) (before object rest rest' : List Char)
      (depth : Nat) (members : List (String × Json)),
      page.toList = before ++ (object ++ rest) → page'.toList = before ++ (object ++ rest') →
      FirstConfig page.toList (object ++ rest) → IsObject depth object members →
        streamMap? page' includeAdaptive = streamMap? page includeAdaptive) ∧
    ∀ (network : Network) (asked : List Request) (settings : PlatformSettings) (id : VideoId)
      (page : String),
      Resolution.pageAfter network asked (settings.watchUrlFor id.text) = .ok page →
        Resolution.Course network asked (Resolution.extractStreamMap settings id)
          [Resolution.watchRequest settings id]
          ((streamMap? page settings.includeAdaptive).elim (.error .playerConfigNotFound) .ok) := by
  refine ⟨fun _ _ _ => streamMap?_eq_some, ?_, ?_⟩
  · intro page page' includeAdaptive before object rest rest' depth members hpage hpage' hplace
      hobject
    exact streamMap?_of_same_object hpage hpage' hplace hobject
  · intro network asked settings id page hpage
    have hfetched : Resolution.Course network asked
        (Resolution.fetchText (settings.watchUrlFor id.text)) [Resolution.watchRequest settings id]
        (Resolution.pageAfter network asked (settings.watchUrlFor id.text)) := .fetchText _
    rw [hpage] at hfetched
    exact hfetched.andThen fun page => .orElseFail _ _

/-- A configuration with braces in its strings. -/
def bracedObject : String :=
  "\x7b\"args\": \x7b\"url_encoded_fmt_stream_map\": \"u=\x7d\", " ++
    "\"adaptive_fmts\": \"u=\x7b\"\x7d\x7d"

def bracedArgs : List (String × Json) :=
  [("url_encoded_fmt_stream_map", .string "u=\x7d"), ("adaptive_fmts", .string "u=\x7b")]

def bracedPage (rest : String) : String :=
  "ytplayer.config = " ++ (bracedObject ++ rest)

def bracedNetwork : Network where
  get _ _ := .ok { status := 200, body := (bracedPage "; \x7d").toUTF8.toList }
  head _ _ := .ok 200

theorem parse?_bracedObject :
    Json.parse? bracedObject.toList = some (.object [("args", .object bracedArgs)]) := by
  cbv

theorem streamMap_agrees_with_json_of_braces :
    let page := bracedPage "; \x7d"
    let members := [("args", Json.object bracedArgs)]
    let id : VideoId := ⟨"v", by decide, by decide⟩
    let settings : PlatformSettings := { includeAdaptive := true }
    page.toList = "ytplayer.config = ".toList ++ (bracedObject.toList ++ "; \x7d".toList) ∧
      (bracedPage "\"").toList =
        "ytplayer.config = ".toList ++ (bracedObject.toList ++ "\"".toList) ∧
      FirstConfig page.toList (bracedObject.toList ++ "; \x7d".toList) ∧
      IsObject maxDepth bracedObject.toList members ∧
      Resolution.pageAfter bracedNetwork [] (settings.watchUrlFor id.text) = .ok page ∧
      ShowsStreamMap page.toList true "u=\x7d,u=\x7b" ∧
      streamMap? (bracedPage "\"") true = streamMap? page true ∧
      Resolution.Course bracedNetwork [] (Resolution.extractStreamMap settings id)
        [Resolution.watchRequest settings id] (.ok "u=\x7d,u=\x7b") := by
  intro page members id settings
  have hpage : page.toList =
      "ytplayer.config = ".toList ++ (bracedObject.toList ++ "; \x7d".toList) := by decide +kernel
  have hother : (bracedPage "\"").toList =
      "ytplayer.config = ".toList ++ (bracedObject.toList ++ "\"".toList) := by decide +kernel
  have htail : playerConfig? page.toList =
      some (bracedObject.toList ++ "; \x7d".toList) := by decide +kernel
  have htaken : matchingBrace? (bracedObject.toList ++ "; \x7d".toList) =
      some bracedObject.toList := by decide +kernel
  have hplace := playerConfig?_eq_some.mp htail
  have hobject := (matchingBrace?_read.mp ⟨htaken, parse?_bracedObject⟩).1
  have hfetched : Resolution.pageAfter bracedNetwork [] (settings.watchUrlFor id.text) =
      .ok page := by decide +kernel
  have hmap : streamMap? page true = some "u=\x7d,u=\x7b" := by decide +kernel
  obtain ⟨hshows, hsame, hextracted⟩ := streamMap_agrees_with_json
  refine ⟨hpage, hother, hplace, hobject, hfetched, (hshows _ _ _).mp hmap, ?_, ?_⟩
  · exact hsame page _ true _ _ _ _ maxDepth members hpage hother hplace hobject
  · have hcourse := hextracted bracedNetwork [] settings id page hfetched
    have hresult : streamMap? page settings.includeAdaptive = some "u=\x7d,u=\x7b" := hmap
    rwa [hresult] at hcourse

end Page

end StreamLinks
