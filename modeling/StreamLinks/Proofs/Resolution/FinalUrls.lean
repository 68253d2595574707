import StreamLinks.Proofs.Resolution.Listing

/-!
# Signatures decide about the whole video

A resolution that has its stream map succeeds exactly when every entry gets a final
URL.  Only scrambled signatures can stand in the way: the player has to be found, and
a fresh interpreter of its script has to unscramble each of them, whatever becomes of
the entry behind.  What fails first, in the order of the map, is the error.
-/

namespace StreamLinks.Resolution

variable (network : Network) (settings : PlatformSettings) (id : VideoId)

/-! ## The player -/

/-- The watch page names a player script, and the script names the function that
unscrambles signatures. -/
inductive FindsPlayer (before : List Request) : Player → Prop
  | intro {page url script function : String}
      (hpage : pageAfter network before (settings.watchUrlFor id.text) = .ok page)
      (hurl : Page.playerScriptUrl? page settings.origin = some url)
      (hscript : pageAfter network (before ++ [watchRequest settings id]) url = .ok script)
      (hfunction : Page.signatureFunction? script = some function) :
      FindsPlayer before ⟨script, function⟩

/-- The first lookup on the way to the player that fails. -/
inductive MissesPlayer (before : List Request) : ResolveError → Prop
  | page {error : ResolveError}
      (hpage : pageAfter network before (settings.watchUrlFor id.text) = .error error) :
      MissesPlayer before error
  | url {page : String}
      (hpage : pageAfter network before (settings.watchUrlFor id.text) = .ok page)
      (hurl : Page.playerScriptUrl? page settings.origin = none) :
      MissesPlayer before .playerScriptNotFound
  | script {page url : String} {error : ResolveError}
      (hpage : pageAfter network before (settings.watchUrlFor id.text) = .ok page)
      (hurl : Page.playerScriptUrl? page settings.origin = some url)
      (hscript : pageAfter network (before ++ [watchRequest settings id]) url = .error error) :
      MissesPlayer before error
  | function {page url script : String}
      (hpage : pageAfter network before (settings.watchUrlFor id.text) = .ok page)
      (hurl : Page.playerScriptUrl? page settings.origin = some url)
      (hscript : pageAfter network (before ++ [watchRequest settings id]) url = .ok script)
      (hfunction : Page.signatureFunction? script = none) :
      MissesPlayer before .signatureFunctionNotFound

/-- The text that a fresh interpreter of the player script makes of a scrambled
signature, or why it makes none. -/
def Player.decipher (player : Player) (scrambled : String) : Except Cipher.Error String :=
  ((Cipher.Interpreter.fresh player.script settings.maxCallDepth).decipher player.function
    scrambled).1

/-! ## Final URLs -/

/-- The URL at which an entry is played, where the player is looked up after the
requests `before`. -/
inductive IsFinalUrl (before : List Request) (entry : StreamEntry) : String → Prop
  | plain {signature : String} (hsignature : entry.signature = .plain signature) :
      IsFinalUrl before entry (appendSignature entry.url signature)
  | absent (hsignature : entry.signature = .absent) : IsFinalUrl before entry entry.url
  | scrambled {scrambled text : String} {player : Player}
      (hsignature : entry.signature = .scrambled scrambled)
      (hplayer : FindsPlayer network settings id before player)
      (htext : player.decipher settings scrambled = .ok text) :
      IsFinalUrl before entry (appendSignature entry.url text)

/-- Every scrambled signature is unscrambled. -/
def UnscramblesAll (player : Player) (entries : List StreamEntry) : Prop :=
  ∀ entry ∈ entries, ∀ scrambled, entry.signature = .scrambled scrambled →
    ∃ text, player.decipher settings scrambled = .ok text

/-- The first signature that is not unscrambled fails for this reason. -/
def FirstRefused (player : Player) (entries : List StreamEntry) (reason : Cipher.Error) : Prop :=
  ∃ front entry rest scrambled, entries = front ++ entry :: rest ∧
    UnscramblesAll settings player front ∧ entry.signature = .scrambled scrambled ∧
    player.decipher settings scrambled = .error reason

variable {network settings id} {before : List Request} {player : Player} {entry : StreamEntry}
  {entries : List StreamEntry} {info : VideoInfo} {streamMap url : String} {error : ResolveError}
  {final : StreamEntry → Except ResolveError String}

theorem foundPlayer_eq_ok :
    foundPlayer network settings id before = .ok player ↔
      FindsPlayer network settings id before player := by
  simp only [foundPlayer, playerScriptUrl, readPlayer, bind_eq_ok, elim_eq_ok, pure_eq_ok]
  constructor
  · rintro ⟨url, ⟨page, hpage, hurl⟩, script, hscript, function, hfunction, rfl⟩
    exact .intro hpage hurl hscript hfunction
  · rintro ⟨hpage, hurl, hscript, hfunction⟩
    exact ⟨_, ⟨_, hpage, hurl⟩, _, hscript, _, hfunction, rfl⟩

theorem foundPlayer_eq_error :
    foundPlayer network settings id before = .error error ↔
      MissesPlayer network settings id before error := by
  simp only [foundPlayer, playerScriptUrl, readPlayer, bind_eq_error, bind_eq_ok, elim_eq_error,
    elim_eq_ok]
  constructor
  · rintro ((hpage | ⟨page, hpage, hurl, rfl⟩) | ⟨url, ⟨page, hpage, hurl⟩,
      hscript | ⟨script, hscript, ⟨hfunction, rfl⟩ | ⟨function, -, h⟩⟩⟩)
    · exact .page hpage
    · exact .url hpage hurl
    · exact .script hpage hurl hscript
    · exact .function hpage hurl hscript hfunction
    · cases h
  · intro hmisses
    cases hmisses with
    | page hpage => exact .inl (.inl hpage)
    | url hpage hurl => exact .inl (.inr ⟨_, hpage, hurl, rfl⟩)
    | script hpage hurl hscript => exact .inr ⟨_, ⟨_, hpage, hurl⟩, .inl hscript⟩
    | function hpage hurl hscript hfunction =>
        exact .inr ⟨_, ⟨_, hpage, hurl⟩, .inr ⟨_, hscript, .inl ⟨hfunction, rfl⟩⟩⟩

theorem unscramble_eq_ok {scrambled text : String} :
    player.unscramble settings scrambled = .ok text ↔
      player.decipher settings scrambled = .ok text :=
  mapError_eq_ok

theorem unscramble_eq_error {scrambled : String} :
    player.unscramble settings scrambled = .error error ↔
      ∃ reason, player.decipher settings scrambled = .error reason ∧ .cipher reason = error :=
  mapError_eq_error

theorem entryUrl_eq_ok :
    entryUrl settings (foundPlayer network settings id before) entry = .ok url ↔
      IsFinalUrl network settings id before entry url := by
  unfold entryUrl
  constructor
  · intro hurl
    cases hsignature : entry.signature with
    | plain signature =>
        rw [hsignature] at hurl
        cases hurl
        exact .plain hsignature
    | absent =>
        rw [hsignature] at hurl
        cases hurl
        exact .absent hsignature
    | scrambled scrambled =>
        rw [hsignature] at hurl
        simp only [bind_eq_ok, pure_eq_ok, foundPlayer_eq_ok, unscramble_eq_ok] at hurl
        obtain ⟨player, hplayer, text, htext, rfl⟩ := hurl
        exact .scrambled hsignature hplayer htext
  · intro hfinal
    cases hfinal with
    | plain hsignature => rw [hsignature]
    | absent hsignature => rw [hsignature]
    | scrambled hsignature hplayer htext =>
        rw [hsignature]
        simp only [bind_eq_ok, pure_eq_ok, foundPlayer_eq_ok, unscramble_eq_ok]
        exact ⟨_, hplayer, _, htext, rfl⟩

theorem entryUrl_eq_error :
    entryUrl settings (foundPlayer network settings id before) entry = .error error ↔
      ∃ scrambled, entry.signature = .scrambled scrambled ∧
        (MissesPlayer network settings id before error ∨
          ∃ player reason, FindsPlayer network settings id before player ∧
            player.decipher settings scrambled = .error reason ∧ error = .cipher reason) := by
  unfold entryUrl
  cases hsignature : entry.signature with
  | plain signature => simp
  | absent => simp
  | scrambled scrambled =>
      simp only [bind_eq_error, foundPlayer_eq_error, foundPlayer_eq_ok, unscramble_eq_error]
      constructor
      · rintro (hmisses | ⟨player, hplayer, ⟨reason, hreason, rfl⟩ | ⟨text, -, h⟩⟩)
        · exact ⟨scrambled, rfl, .inl hmisses⟩
        · exact ⟨scrambled, rfl, .inr ⟨player, reason, hplayer, hreason, rfl⟩⟩
        · cases h
      · rintro ⟨_, ⟨⟩, hmisses | ⟨player, reason, hplayer, hreason, rfl⟩⟩
        · exact .inl hmisses
        · exact .inr ⟨player, hplayer, .inl ⟨reason, hreason, rfl⟩⟩

/-! ## The first entry without a final URL -/

theorem firstFailure_eq_some :
    firstFailure final entries = some error ↔
      ∃ front entry rest, entries = front ++ entry :: rest ∧
        (∀ earlier ∈ front, ∃ url, final earlier = .ok url) ∧ final entry = .error error := by
  constructor
  · intro hfailure
    induction entries with
    | nil => simp [firstFailure] at hfailure
    | cons entry rest ih =>
        cases hfinal : final entry with
        | ok url =>
            rw [firstFailure_cons_of_ok hfinal] at hfailure
            obtain ⟨front, failed, behind, rfl, hfront, hfailed⟩ := ih hfailure
            refine ⟨entry :: front, failed, behind, rfl, ?_, hfailed⟩
            rw [List.forall_mem_cons]
            exact ⟨⟨url, hfinal⟩, hfront⟩
        | error reason =>
            rw [firstFailure_cons_of_error hfinal] at hfailure
            cases hfailure
            exact ⟨[], entry, rest, rfl, by simp, hfinal⟩
  · rintro ⟨front, entry, rest, rfl, hfront, hfailed⟩
    induction front with
    | nil => exact firstFailure_cons_of_error hfailed
    | cons earlier front ih =>
        rw [List.forall_mem_cons] at hfront
        obtain ⟨⟨url, hurl⟩, hfront⟩ := hfront
        rw [List.cons_append, firstFailure_cons_of_ok hurl]
        exact ih hfront

/-! ## Which entries have a final URL -/

theorem FindsPlayer.unique {other : Player}
    (hplayer : FindsPlayer network settings id before player)
    (hother : FindsPlayer network settings id before other) : player = other := by
  rw [← foundPlayer_eq_ok] at hplayer hother
  rw [hplayer] at hother
  exact Except.ok.inj hother

theorem MissesPlayer.not_findsPlayer (hmisses : MissesPlayer network settings id before error) :
    ¬ FindsPlayer network settings id before player := by
  rw [← foundPlayer_eq_error] at hmisses
  rw [← foundPlayer_eq_ok, hmisses]
  intro h
  cases h

theorem FindsPlayer.exists_isFinalUrl (hplayer : FindsPlayer network settings id before player) :
    (∀ entry ∈ entries, ∃ url, IsFinalUrl network settings id before entry url) ↔
      UnscramblesAll settings player entries := by
  constructor
  · intro hall entry hentry scrambled hscrambled
    obtain ⟨url, hurl⟩ := hall entry hentry
    cases hurl with
    | plain hsignature => cases hscrambled.symm.trans hsignature
    | absent hsignature => cases hscrambled.symm.trans hsignature
    | scrambled hsignature hother htext =>
        cases hscrambled.symm.trans hsignature
        cases hplayer.unique hother
        exact ⟨_, htext⟩
  · intro hall entry hentry
    cases hsignature : entry.signature with
    | plain signature => exact ⟨_, .plain hsignature⟩
    | absent => exact ⟨_, .absent hsignature⟩
    | scrambled scrambled =>
        obtain ⟨text, htext⟩ := hall entry hentry scrambled hsignature
        exact ⟨_, .scrambled hsignature hplayer htext⟩

theorem MissesPlayer.exists_isFinalUrl
    (hmisses : MissesPlayer network settings id before error) :
    (∃ url, IsFinalUrl network settings id before entry url) ↔ needsPlayer entry = false := by
  constructor
  · rintro ⟨url, hurl⟩
    cases hurl with
    | plain hsignature => rw [needsPlayer, hsignature]
    | absent hsignature => rw [needsPlayer, hsignature]
    | scrambled hsignature hplayer htext => exact absurd hplayer hmisses.not_findsPlayer
  · intro hplain
    rcases signature_of_plain hplain with ⟨signature, hsignature⟩ | hsignature
    · exact ⟨_, .plain hsignature⟩
    · exact ⟨_, .absent hsignature⟩

/-- All entries have a final URL when none needs the player, or when the player is found
and unscrambles every signature. -/
theorem all_have_finalUrl :
    (∀ entry ∈ entries, ∃ url, IsFinalUrl network settings id before entry url) ↔
      (∀ entry ∈ entries, needsPlayer entry = false) ∨
        ∃ player, FindsPlayer network settings id before player ∧
          UnscramblesAll settings player entries := by
  cases hfound : foundPlayer network settings id before with
  | ok player =>
      have hplayer := foundPlayer_eq_ok.mp hfound
      rw [hplayer.exists_isFinalUrl]
      constructor
      · intro hall
        exact .inr ⟨player, hplayer, hall⟩
      · rintro (hplain | ⟨other, hother, hall⟩)
        · rw [← hplayer.exists_isFinalUrl]
          intro entry hentry
          exact ⟨plainUrl entry, entryUrl_eq_ok.mp (entryUrl_of_plain (hplain entry hentry) _)⟩
        · rwa [hplayer.unique hother]
  | error error =>
      have hmisses := foundPlayer_eq_error.mp hfound
      simp only [hmisses.exists_isFinalUrl, hmisses.not_findsPlayer, false_and, exists_false,
        or_false]

theorem firstFailure_entryUrl_eq_some :
    firstFailure (entryUrl settings (foundPlayer network settings id before)) entries =
        some error ↔
      ((∃ entry ∈ entries, needsPlayer entry = true) ∧
          MissesPlayer network settings id before error) ∨
        ∃ player reason, FindsPlayer network settings id before player ∧
          FirstRefused settings player entries reason ∧ error = .cipher reason := by
  simp only [firstFailure_eq_some, entryUrl_eq_ok, entryUrl_eq_error]
  constructor
  · rintro ⟨front, entry, rest, rfl, hfront, scrambled, hsignature,
      hmisses | ⟨player, reason, hplayer, hreason, rfl⟩⟩
    · have hneeds : needsPlayer entry = true := by rw [needsPlayer, hsignature]
      exact .inl ⟨⟨entry, by simp, hneeds⟩, hmisses⟩
    · have hall := hplayer.exists_isFinalUrl.mp hfront
      exact .inr ⟨player, reason, hplayer,
        ⟨front, entry, rest, scrambled, rfl, hall, hsignature, hreason⟩, rfl⟩
  · rintro (⟨⟨entry, hentry, hneeds⟩, hmisses⟩ | ⟨player, reason, hplayer,
      ⟨front, entry, rest, scrambled, rfl, hall, hsignature, hreason⟩, rfl⟩)
    · have hsome : (entries.find? needsPlayer).isSome = true :=
        List.find?_isSome.mpr ⟨entry, hentry, hneeds⟩
      obtain ⟨first, hfirst⟩ := Option.isSome_iff_exists.mp hsome
      obtain ⟨hneeds, front, rest, rfl, hfront⟩ := List.find?_eq_some_iff_append.mp hfirst
      obtain ⟨scrambled, hsignature⟩ := signature_of_needsPlayer hneeds
      refine ⟨front, first, rest, rfl, ?_, scrambled, hsignature, .inl hmisses⟩
      intro earlier hearlier
      apply hmisses.exists_isFinalUrl.mpr
      simpa using hfront earlier hearlier
    · exact ⟨front, entry, rest, rfl, hplayer.exists_isFinalUrl.mpr hall, scrambled, hsignature,
        .inr ⟨player, reason, hplayer, hreason, rfl⟩⟩

/-! ## What a resolution comes to -/

/-- With its stream map at hand a resolution succeeds exactly when no entry needs the
player or the player is found and unscrambles every signature; then all entries have
their final URL.  Otherwise the error is that of the lookup of the player that fails, or
else of the first signature that is not unscrambled. -/
theorem signatures_of_resolve (hinfo : usableInfo? network settings id = some info)
    (hmap : streamMapFor network settings id info = .ok streamMap) :
    let entries := entriesOf streamMap
    let before := openingRequests network settings id info ++ plainProbes settings entries
    let run := (resolve settings id).runFrom network Trace.empty
    ((∃ streams, run.1 = .ok streams) ↔
        (∀ entry ∈ entries, needsPlayer entry = false) ∨
          ∃ player, FindsPlayer network settings id before player ∧
            UnscramblesAll settings player entries) ∧
      (∀ streams, run.1 = .ok streams →
        ∃ found : List LocatedEntry, found.map LocatedEntry.entry = entries ∧
          (∀ location ∈ found,
            IsFinalUrl network settings id before location.entry location.url) ∧
          run.2.requests.filter isProbe = probes settings found ∧
          Lists (info.title.getD "")
            (kept settings found (probeAnswers network [] run.2.requests)) streams) ∧
      ∀ error, run.1 = .error error ↔
        ((∃ entry ∈ entries, needsPlayer entry = true) ∧
            MissesPlayer network settings id before error) ∨
          ∃ player reason, FindsPlayer network settings id before player ∧
            FirstRefused settings player entries reason ∧ error = .cipher reason := by
  intro entries before run
  let final := entryUrl settings (foundPlayer network settings id before)
  have hresult := (resolve_course hinfo hmap).requests_eq.1
  have herror : ∀ error, run.1 = .error error ↔ firstFailure final entries = some error := by
    intro error
    rw [hresult, map_eq_error, listingResult_eq_error]
    rfl
  refine ⟨?_, ?_, ?_⟩
  · rw [exists_ok_iff]
    simp only [ne_eq, herror, ← all_have_finalUrl, ← entryUrl_eq_ok, ← firstFailure_eq_none]
    exact Option.eq_none_iff_forall_ne_some.symm
  · intro streams hstreams
    obtain ⟨hentries, hprobes, hlists⟩ := lists_located hinfo hmap hstreams
    refine ⟨located final entries, hentries, ?_, hprobes, hlists⟩
    intro location hlocation
    exact entryUrl_eq_ok.mp (final_of_mem_located hlocation)
  · intro error
    rw [← firstFailure_entryUrl_eq_some, herror]

def shortUrls : PlatformSettings :=
  { infoUrl := "info", watchUrl := "watch", infoVariants := [""] }

def someVideo : VideoId := ⟨"v", by decide, by decide⟩

def scrambledInfo : VideoInfo :=
  VideoInfo.ofBody "token=t&url_encoded_fmt_stream_map=s=1"

def mapOfVanishingPage : String := "itag=1&url=b&sig=z,itag=1&url=a&s=xy"

/-- The watch page shows a stream map once and is gone afterwards. -/
def vanishingPage : Network where
  get before url :=
    if url = "info" then
      .ok { status := 200, body := ("token=t&url_encoded_fmt_stream_map=s=1".toUTF8).toList }
    else if before = [⟨.get, "info"⟩] then
      let page := "ytplayer.config=\x7b\"args\":\x7b\"url_encoded_fmt_stream_map\":\""
        ++ mapOfVanishingPage ++ "\"\x7d\x7d"
      .ok { status := 200, body := page.toUTF8.toList }
    else .error "gone"
  head _ _ := .ok 200

theorem signatures_of_vanishing_page :
    usableInfo? vanishingPage shortUrls someVideo = some scrambledInfo ∧
      streamMapFor vanishingPage shortUrls someVideo scrambledInfo = .ok mapOfVanishingPage ∧
      ((resolve shortUrls someVideo).runFrom vanishingPage Trace.empty).1 =
        .error (.transport (.request "watch" "gone")) := by
  have hinfo : usableInfo? vanishingPage shortUrls someVideo = some scrambledInfo := by
    decide +kernel
  have hmap : streamMapFor vanishingPage shortUrls someVideo scrambledInfo =
      .ok mapOfVanishingPage := by
    decide +kernel
  have hneeds : (entriesOf mapOfVanishingPage).any needsPlayer = true := by
    decide +kernel
  have hpage : pageAfter vanishingPage
      (openingRequests vanishingPage shortUrls someVideo scrambledInfo ++
        plainProbes shortUrls (entriesOf mapOfVanishingPage))
      (shortUrls.watchUrlFor someVideo.text) = .error (.transport (.request "watch" "gone")) := by
    decide +kernel
  refine ⟨hinfo, hmap, ?_⟩
  apply ((signatures_of_resolve hinfo hmap).2.2 _).mpr
  exact .inl ⟨List.any_eq_true.mp hneeds, .page hpage⟩

end StreamLinks.Resolution
