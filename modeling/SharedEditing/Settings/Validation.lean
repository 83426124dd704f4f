import SharedEditing.Settings.Basic
import SharedEditing.Settings.SocketAddress
import SharedEditing.Text.Blank

/-! # Which settings are sound

Each section is checked by itself and in a fixed order, and the first thing
found wrong is reported. What the sections mean for the service stands here
too: the address to listen on, the allowed origins and the identity endpoint. -/

namespace SharedEditing

inductive SettingsError where
  | missingRequired (name : String)
  | invalidPort
  | invalidSocketAddress (address : String)
  | invalidTimeout
  | invalidOutboxCapacity
  | invalidDatabaseUrl
  | invalidPoolSize
  | invalidSessionServiceUrl
  | sessionServiceMustBeHttps
  | invalidIdentityPath
  | invalidSessionTimeout
  | invalidRestartBackoff
  deriving DecidableEq, Repr

def SettingsError.message : SettingsError → String
  | missingRequired name => "Required configuration missing: " ++ name
  | invalidPort => "Invalid port number"
  | invalidSocketAddress address => "Invalid socket address: " ++ address
  | invalidTimeout => "Invalid request timeout"
  | invalidOutboxCapacity => "Outbox capacity must be greater than zero"
  | invalidDatabaseUrl => "Invalid database URL format"
  | invalidPoolSize =>
      "Pool size must be between 4 and 100 (one listener per watched collection plus queries)"
  | invalidSessionServiceUrl => "Invalid session service URL format"
  | sessionServiceMustBeHttps => "Session service must use HTTPS in production"
  | invalidIdentityPath => "Identity path must start with '/'"
  | invalidSessionTimeout => "Session service timeout must be between 1 and 60 seconds"
  | invalidRestartBackoff => "Feed restart backoff must be greater than zero"

def demand (holds : Bool) (error : SettingsError) : Except SettingsError Unit :=
  if holds then .ok () else .error error

def beginsWith (text start : String) : Bool := start.toList.isPrefixOf text.toList

namespace ServerSettings

def isProduction (settings : ServerSettings) : Bool := settings.stage == .production

def addressText (settings : ServerSettings) : String :=
  settings.host ++ ":" ++ toString settings.port

def socketAddress (settings : ServerSettings) : Except SettingsError SocketAddress :=
  match SocketAddress.ofText? settings.addressText with
  | some address => .ok address
  | none => .error (.invalidSocketAddress settings.addressText)

def corsOriginList (settings : ServerSettings) : List String :=
  match settings.corsOrigins with
  | none => []
  | some origins =>
      ((Text.pieces ',' origins).map Text.trim).filter fun origin => !origin.isEmpty

def validate (settings : ServerSettings) : Except SettingsError Unit := do
  demand (settings.port ≠ 0) .invalidPort
  let _ ← settings.socketAddress
  demand (0 < settings.requestTimeoutSeconds && settings.requestTimeoutSeconds ≤ 300)
    .invalidTimeout
  demand (0 < settings.outboxCapacity) .invalidOutboxCapacity

end ServerSettings

namespace DatabaseSettings

def leastPoolSize : Nat := 4

def greatestPoolSize : Nat := 100

def validate (settings : DatabaseSettings) : Except SettingsError Unit := do
  demand (!settings.url.isEmpty) (.missingRequired "DATABASE__URL")
  demand (beginsWith settings.url "postgres://" || beginsWith settings.url "postgresql://")
    .invalidDatabaseUrl
  demand (leastPoolSize ≤ settings.maxConnections && settings.maxConnections ≤ greatestPoolSize)
    .invalidPoolSize

end DatabaseSettings

namespace SessionServiceSettings

def withoutTrailingSlashes (text : String) : String :=
  String.ofList ((text.toList.reverse.dropWhile (· == '/')).reverse)

def identityUrl (settings : SessionServiceSettings) : String :=
  withoutTrailingSlashes settings.baseUrl ++ settings.identityPath

def validate (settings : SessionServiceSettings) (stage : Stage) : Except SettingsError Unit := do
  demand (!settings.baseUrl.isEmpty) (.missingRequired "SESSION_SERVICE__BASE_URL")
  demand (beginsWith settings.baseUrl "http://" || beginsWith settings.baseUrl "https://")
    .invalidSessionServiceUrl
  demand (stage ≠ .production || beginsWith settings.baseUrl "https://")
    .sessionServiceMustBeHttps
  demand (beginsWith settings.identityPath "/") .invalidIdentityPath
  demand (1 ≤ settings.timeoutSeconds && settings.timeoutSeconds ≤ 60) .invalidSessionTimeout

end SessionServiceSettings

namespace FanOutSettings

def validate (settings : FanOutSettings) : Except SettingsError Unit :=
  demand (0 < settings.restartBackoffMilliseconds) .invalidRestartBackoff

end FanOutSettings

namespace Settings

def isProduction (settings : Settings) : Bool := settings.server.isProduction

def validate (settings : Settings) : Except SettingsError Unit := do
  settings.server.validate
  settings.database.validate
  settings.sessionService.validate settings.server.stage
  settings.fanOut.validate

end Settings

end SharedEditing
