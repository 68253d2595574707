import StreamLinks.Proofs.Cipher.Cache
import StreamLinks.Proofs.Resolution.Course
import StreamLinks.Resolution.Streams

/-!
# Watch pages, player scripts and signatures

What a resolution asks for besides the information about a video: the watch page,
when the stream map has to come from there, and watch page and player script, when
a signature is scrambled.  One unscrambler serves all entries, and each signature
comes out as a fresh interpreter of the player script would have it.
-/

namespace StreamLinks.Resolution

variable (network : Network) (settings : PlatformSettings) (id : VideoId)

def watchRequest : Request :=
  ⟨.get, settings.watchUrlFor id.text⟩

/-! ## The stream map -/

/-- The stream map that a record gives, with the adaptive streams if wanted. -/
def recordStreamMap (info : VideoInfo) : String :=
  withAdaptive settings.includeAdaptive (info.streamMap.getD "") info.adaptiveFormats

def streamMapRequests (info : VideoInfo) : List Request :=
  if isScrambled (recordStreamMap settings info) then [watchRequest settings id] else []

/-- The stream map of a record, or that of the watch page when the former has
scrambled signatures. -/
def chosenStreamMap (before : List Request) (info : VideoInfo) : Except ResolveError String :=
  if isScrambled (recordStreamMap settings info) then do
    let page ← pageAfter network before (settings.watchUrlFor id.text)
    (Page.streamMap? page settings.includeAdaptive).elim (.error .playerConfigNotFound) .ok
  else .ok (recordStreamMap settings info)

/-! ## The player script -/

/-- A player script and its function that unscrambles signatures. -/
structure Player where
  script : String
  function : String

/-- The URL of the player script on the watch page. -/
def playerScriptUrl (before : List Request) : Except ResolveError String := do
  let page ← pageAfter network before (settings.watchUrlFor id.text)
  (Page.playerScriptUrl? page settings.origin).elim (.error .playerScriptNotFound) .ok

def playerRequests (before : List Request) : List Request :=
  watchRequest settings id ::
    match playerScriptUrl network settings id before with
    | .ok url => [⟨.get, url⟩]
    | .error _ => []

/-- The player behind the URL of a player script. -/
def readPlayer (before : List Request) (url : String) : Except ResolveError Player := do
  let script ← pageAfter network before url
  let function ← (Page.signatureFunction? script).elim (.error .signatureFunctionNotFound) .ok
  return ⟨script, function⟩

def foundPlayer (before : List Request) : Except ResolveError Player := do
  readPlayer network (before ++ [watchRequest settings id])
    (← playerScriptUrl network settings id before)

/-- The text that a fresh interpreter of the player script makes of a scrambled
signature. -/
def Player.unscramble (player : Player) (scrambled : String) : Except ResolveError String :=
  ((Cipher.Interpreter.fresh player.script settings.maxCallDepth).decipher player.function
    scrambled).1.mapError .cipher

/-! ## Final URLs -/

/-- The URL at which an entry is played, given the player if there is one. -/
def entryUrl (player : Except ResolveError Player) (entry : StreamEntry) :
    Except ResolveError String :=
  match entry.signature with
  | .plain signature => .ok (appendSignature entry.url signature)
  | .absent => .ok entry.url
  | .scrambled scrambled => do
      let signature ← (← player).unscramble settings scrambled
      return appendSignature entry.url signature

def needsPlayer (entry : StreamEntry) : Bool :=
  match entry.signature with
  | .scrambled _ => true
  | _ => false

/-- The URL at which an entry is played that needs no player. -/
def plainUrl (entry : StreamEntry) : String :=
  match entry.signature with
  | .plain signature => appendSignature entry.url signature
  | _ => entry.url

/-- The unscrambler over a player before its first signature. -/
def Player.unscrambler (player : Player) : Unscrambler where
  interpreter := Cipher.Interpreter.fresh player.script settings.maxCallDepth
  function := player.function

variable {network settings id} {before : List Request} {info : VideoInfo}
  {player : Player} {unscrambler : Unscrambler} {entry : StreamEntry}

theorem signature_of_needsPlayer (hneeds : needsPlayer entry = true) :
    ∃ scrambled, entry.signature = .scrambled scrambled := by
  unfold needsPlayer at hneeds
  split at hneeds
  · next scrambled hsignature => exact ⟨scrambled, hsignature⟩
  · contradiction

theorem signature_of_plain (hplain : needsPlayer entry = false) :
    (∃ signature, entry.signature = .plain signature) ∨ entry.signature = .absent := by
  unfold needsPlayer at hplain
  cases hsignature : entry.signature with
  | plain signature => exact .inl ⟨signature, rfl⟩
  | absent => exact .inr rfl
  | scrambled scrambled =>
      rw [hsignature] at hplain
      contradiction

theorem entryUrl_of_plain (hplain : needsPlayer entry = false)
    (player : Except ResolveError Player) :
    entryUrl settings player entry = .ok (plainUrl entry) := by
  unfold entryUrl plainUrl
  rcases signature_of_plain hplain with ⟨signature, hsignature⟩ | hsignature
  · rw [hsignature]
  · rw [hsignature]

theorem entryUrl_of_failed {error : ResolveError} (hneeds : needsPlayer entry = true) :
    entryUrl settings (.error error) entry = .error error := by
  obtain ⟨scrambled, hsignature⟩ := signature_of_needsPlayer hneeds
  unfold entryUrl
  rw [hsignature]
  rfl

theorem chooseStreamMap_course :
    Course network before (chooseStreamMap settings id info)
      (streamMapRequests settings id info) (chosenStreamMap network settings id before info) := by
  unfold chooseStreamMap streamMapRequests chosenStreamMap
  by_cases hscrambled : isScrambled (recordStreamMap settings info) = true
  · rw [if_pos hscrambled, if_pos hscrambled]
    unfold recordStreamMap at hscrambled
    rw [if_pos hscrambled]
    unfold extractStreamMap
    exact (Course.fetchText _).andThen fun page => .orElseFail _ _
  · rw [if_neg hscrambled, if_neg hscrambled]
    unfold recordStreamMap at hscrambled
    rw [if_neg hscrambled]
    exact .pure _

theorem locatePlayerScript_course :
    Course network before (locatePlayerScript settings id) [watchRequest settings id]
      (playerScriptUrl network settings id before) := by
  unfold locatePlayerScript playerScriptUrl
  exact (Course.fetchText _).andThen fun page => .orElseFail _ _

theorem loadUnscrambler_course :
    Course network before (loadUnscrambler settings id) (playerRequests network settings id before)
      (Player.unscrambler settings <$> foundPlayer network settings id before) := by
  have hlocate : Course network before (locatePlayerScript settings id)
      [watchRequest settings id] (playerScriptUrl network settings id before) :=
    locatePlayerScript_course
  unfold loadUnscrambler playerRequests foundPlayer
  cases hurl : playerScriptUrl network settings id before with
  | error error =>
      rw [hurl] at hlocate
      exact hlocate.bind_error
  | ok url =>
      rw [hurl] at hlocate
      apply hlocate.bind
      change Course _ _ _ _ (Player.unscrambler settings <$>
        readPlayer network (before ++ [watchRequest settings id]) url)
      simp only [readPlayer, map_bind, map_pure]
      apply (Course.fetchText url).andThen
      intro script
      exact (Course.orElseFail _ _).andThen fun function => .pure _

/-- The unscrambler runs the script of the player, whatever it has unscrambled. -/
structure Serves (settings : PlatformSettings) (player : Player) (unscrambler : Unscrambler) :
    Prop where
  interpreter : unscrambler.interpreter.Serves player.script settings.maxCallDepth
  function : unscrambler.function = player.function

theorem Player.unscrambler_serves (settings : PlatformSettings) (player : Player) :
    Serves settings player (player.unscrambler settings) :=
  ⟨Cipher.Interpreter.fresh_serves _ _, rfl⟩

theorem Serves.apply_course (hserves : Serves settings player unscrambler) (scrambled : String) :
    ∃ after, Serves settings player after ∧
      Course network before (unscrambler.apply scrambled) []
        ((fun signature => (signature, after)) <$> player.unscramble settings scrambled) := by
  have hfresh := Cipher.Interpreter.fresh_serves player.script settings.maxCallDepth
  obtain ⟨hanswer, hafter⟩ :=
    Cipher.Interpreter.perform_agrees (.decipher player.function scrambled)
      hserves.interpreter hfresh
  have hsignature : (unscrambler.interpreter.decipher player.function scrambled).1 =
      ((Cipher.Interpreter.fresh player.script settings.maxCallDepth).decipher player.function
        scrambled).1 := Cipher.Answer.text.inj hanswer
  refine ⟨{ unscrambler with
    interpreter := (unscrambler.interpreter.decipher player.function scrambled).2 },
    ⟨hafter, hserves.function⟩, ?_⟩
  unfold Unscrambler.apply Player.unscramble
  rw [hserves.function, map_eq_pure_bind, ← hsignature]
  exact (Course.orFail _ _).andThen fun signature => .pure _

/-! ## Final URLs in the course of a resolution -/

theorem finalUrl_course_of_plain (hplain : needsPlayer entry = false)
    (unscrambler : Option Unscrambler) :
    Course network before (finalUrl settings id unscrambler entry) []
      (.ok (plainUrl entry, unscrambler)) := by
  unfold finalUrl plainUrl
  rcases signature_of_plain hplain with ⟨signature, hsignature⟩ | hsignature
  · rw [hsignature]
    exact .pure _
  · rw [hsignature]
    exact .pure _

variable (network id before) in
/-- With the player at hand an entry gets its final URL without a request, and the
player stays at hand. -/
theorem Serves.finalUrl_course (hserves : Serves settings player unscrambler)
    (entry : StreamEntry) :
    ∃ after, Serves settings player after ∧
      Course network before (finalUrl settings id (some unscrambler) entry) []
        ((fun url => (url, some after)) <$> entryUrl settings (.ok player) entry) := by
  cases hneeds : needsPlayer entry with
  | false =>
      refine ⟨unscrambler, hserves, ?_⟩
      rw [entryUrl_of_plain hneeds]
      exact finalUrl_course_of_plain hneeds (some unscrambler)
  | true =>
      obtain ⟨scrambled, hsignature⟩ := signature_of_needsPlayer hneeds
      obtain ⟨after, hafter, happly⟩ := hserves.apply_course scrambled
      refine ⟨after, hafter, ?_⟩
      have hcourse : Course network before (finalUrl settings id (some unscrambler) entry) []
          (((fun signature => (signature, after)) <$> player.unscramble settings scrambled) >>=
            fun found => .ok (appendSignature entry.url found.1, some found.2)) := by
        unfold finalUrl
        rw [hsignature]
        apply (Course.pure unscrambler).bind_silent
        exact happly.andThen fun found => .pure _
      have hresult : (((fun signature => (signature, after)) <$>
            player.unscramble settings scrambled) >>=
            fun found => .ok (appendSignature entry.url found.1, some found.2)) =
          (fun url => (url, some after)) <$> entryUrl settings (.ok player) entry := by
        unfold entryUrl
        rw [hsignature]
        change _ = (fun url => (url, some after)) <$>
          ((fun signature => appendSignature entry.url signature) <$>
            player.unscramble settings scrambled)
        cases player.unscramble settings scrambled <;> rfl
      rwa [hresult] at hcourse

/-- The first entry that needs the player has it loaded. -/
theorem finalUrl_of_scrambled (hneeds : needsPlayer entry = true) :
    finalUrl settings id none entry =
      loadUnscrambler settings id >>= fun loaded =>
        finalUrl settings id (some loaded) entry := by
  obtain ⟨scrambled, hsignature⟩ := signature_of_needsPlayer hneeds
  unfold finalUrl
  rw [hsignature]
  simp only [pure_bind]

end StreamLinks.Resolution
