import StreamLinks.Cipher.Interpreter
import StreamLinks.Page
import StreamLinks.Resolution.Basic
import StreamLinks.Video.Id

/-!
# Watch pages and player scripts

What a watch page or a player script says is looked up anew each time.
-/

namespace StreamLinks.Resolution

/-- The URL of the player script of a video, from its watch page. -/
def locatePlayerScript (settings : PlatformSettings) (id : VideoId) : Resolution String := do
  let page ← fetchText (settings.watchUrlFor id.text)
  orElseFail .playerScriptNotFound (Page.playerScriptUrl? page settings.origin)

/-- The stream map on the watch page of a video. -/
def extractStreamMap (settings : PlatformSettings) (id : VideoId) : Resolution String := do
  let page ← fetchText (settings.watchUrlFor id.text)
  orElseFail .playerConfigNotFound (Page.streamMap? page settings.includeAdaptive)

/-- The function that unscrambles signatures in a player script. -/
def locateSignatureFunction (script : String) : Resolution String :=
  orElseFail .signatureFunctionNotFound (Page.signatureFunction? script)

/-- An interpreter of a player script, and the function to call. -/
structure Unscrambler where
  interpreter : Cipher.Interpreter
  function : String

/-- Loads the player script of a video. -/
def loadUnscrambler (settings : PlatformSettings) (id : VideoId) : Resolution Unscrambler := do
  let script ← fetchText (← locatePlayerScript settings id)
  let function ← locateSignatureFunction script
  return { interpreter := { script, maxDepth := settings.maxCallDepth }, function }

/-- The unscrambled form of a signature, and the unscrambler to go on with. -/
def Unscrambler.apply (unscrambler : Unscrambler) (scrambled : String) :
    Resolution (String × Unscrambler) := do
  let (result, interpreter) :=
    unscrambler.interpreter.decipher unscrambler.function scrambled
  return (← orFail .cipher result, { unscrambler with interpreter })

end StreamLinks.Resolution
