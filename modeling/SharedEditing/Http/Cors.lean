import SharedEditing.Session.Resolver

/-! # Which origins may call

Without a usable configured origin any origin may call, but without credentials.
With one, the listed origins alone may call, and with credentials. The wildcard
cannot be listed. -/

namespace SharedEditing.Http

inductive CorsPolicy where
  | anyOrigin
  | listed (origins : List String)
  deriving DecidableEq, Repr

/-- The wildcard stands among the listed origins. -/
inductive CorsError where
  | wildcardListed
  deriving DecidableEq, Repr

namespace CorsPolicy

def wildcard : String := "*"

def usableOrigins (settings : ServerSettings) : List String :=
  settings.corsOriginList.filter Session.isHeaderText

def ofSettings (settings : ServerSettings) : Except CorsError CorsPolicy :=
  let origins := usableOrigins settings
  if origins.isEmpty then .ok anyOrigin
  else if wildcard ∈ origins then .error .wildcardListed
  else .ok (listed origins)

def allowedOrigin : CorsPolicy → (origin : Option String) → Option String
  | anyOrigin, _ => some wildcard
  | listed origins, origin => origin.filter fun origin => origin ∈ origins

def allowsCredentials : CorsPolicy → Bool
  | anyOrigin => false
  | listed _ => true

end CorsPolicy

end SharedEditing.Http
