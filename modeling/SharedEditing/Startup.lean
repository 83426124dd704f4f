import SharedEditing.Http.Cors
import SharedEditing.Settings.Validation
import SharedEditing.Store.Link

/-! # Starting to serve

What has to go well before the service can accept connections, in order: it
knows its address, reaches the store, brings the store up to date if it is told
to, has a client for the session service, knows the origins it allows, and gets
the port. The settings are not validated here; that is done before. -/

namespace SharedEditing

inductive StartupError where
  | settings (error : SettingsError)
  | database (reason : String)
  | origins (error : Http.CorsError)
  | portTaken
  deriving DecidableEq, Repr

def StartupError.message : StartupError → String
  | settings error => "Invalid configuration: " ++ error.message
  | database reason => "Database error: " ++ reason
  | origins .wildcardListed => "Wildcard origin among the listed origins"
  | portTaken => "IO error: Address already in use (os error 98)"

structure Started where
  address : SocketAddress
  origins : Http.CorsPolicy
  deriving Repr

namespace Settings

def connect (settings : Settings) (store : Link) : Except StartupError SocketAddress := do
  let address ← settings.server.socketAddress.mapError .settings
  match store.fault? with
  | some reason => throw (.database reason)
  | none => return address

def listen (settings : Settings) (address : SocketAddress) (isPortTaken : Bool) :
    Except StartupError Started := do
  let origins ← (Http.CorsPolicy.ofSettings settings.server).mapError .origins
  if isPortTaken then throw .portTaken
  return { address, origins }

/-- Start where nothing is in the way but the store and the port. -/
def start (settings : Settings) (store : Link) (isPortTaken : Bool) :
    Except StartupError Started := do
  settings.listen (← settings.connect store) isPortTaken

end Settings

/-! ## The whole of it -/

/-- Why the service does not start, where a library may stop it as well. -/
inductive LaunchError where
  | startup (error : StartupError)
  | migration (reason : String)
  | sessionService (reason : String)
  deriving DecidableEq, Repr

def LaunchError.message : LaunchError → String
  | startup error => error.message
  | migration reason => "Migration failed: " ++ reason
  | sessionService reason => "Session service client error: " ++ reason

structure Surroundings where
  store : Link := .up
  isPortTaken : Bool := false
  /-- What the migrations run into. -/
  migrationFault? : Option String := none
  /-- What building a client for the session service runs into. -/
  clientFault? : Option String := none

def LaunchError.stop (error : String → LaunchError) : Option String → Except LaunchError Unit
  | some reason => .error (error reason)
  | none => .ok ()

namespace Settings

def migrate (settings : Settings) (fault? : Option String) : Except LaunchError Unit :=
  if settings.database.runMigrations then LaunchError.stop .migration fault? else .ok ()

def launch (settings : Settings) (surroundings : Surroundings) :
    Except LaunchError Started := do
  let address ← (settings.connect surroundings.store).mapError .startup
  settings.migrate surroundings.migrationFault?
  LaunchError.stop .sessionService surroundings.clientFault?
  (settings.listen address surroundings.isPortTaken).mapError .startup

end Settings

end SharedEditing
