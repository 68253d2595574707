import StreamLinks.Cipher.Error
import StreamLinks.Header
import StreamLinks.Text.Quoted
import StreamLinks.Transport

/-!
# Why a video cannot be resolved
-/

namespace StreamLinks

/-- Why there are no links for an identifier. -/
inductive ResolveError where
  | invalidIdentifier (text : String)
  | rejected (reason : String)
  | unavailable
  | playerScriptNotFound
  | playerConfigNotFound
  | signatureFunctionNotFound
  | cipher (error : Cipher.Error)
  | transport (error : TransportError)
  | invalidHeader (error : HeaderError)
deriving DecidableEq

/-- The wording of a resolve error. -/
def ResolveError.message : ResolveError → String
  | .invalidIdentifier text => "invalid identifier: " ++ Text.quote text
  | .rejected reason => "rejected by upstream: " ++ reason
  | .unavailable => "no metadata variant returned a token"
  | .playerScriptNotFound => "player script url not found on watch page"
  | .playerConfigNotFound => "player config not found on watch page"
  | .signatureFunctionNotFound => "signature function not found in player script"
  | .cipher error => "cipher: " ++ error.message
  | .transport error => error.message
  | .invalidHeader error => "invalid request header: " ++ error.message

end StreamLinks
