/-! # Settings

What the service is configured with. Every value but the address of the
database and that of the session service has a default. -/

namespace SharedEditing

inductive Stage where
  | development
  | staging
  | production
  deriving DecidableEq, Repr

namespace Stage

def all : List Stage := [development, staging, production]

def name : Stage → String
  | development => "development"
  | staging => "staging"
  | production => "production"

end Stage

structure ServerSettings where
  host : String := "0.0.0.0"
  port : Nat := 8091
  stage : Stage := .development
  logLevel : String := "info,collab_rts=debug,sqlx=warn"
  requestTimeoutSeconds : Nat := 30
  /-- The origins that may send credentials, separated by commas. -/
  corsOrigins : Option String := none
  /-- How many messages wait for one connection before more are dropped. -/
  outboxCapacity : Nat := 128
  deriving DecidableEq, Repr

structure DatabaseSettings where
  url : String
  maxConnections : Nat := 10
  acquireTimeoutSeconds : Nat := 30
  runMigrations : Bool := false
  deriving DecidableEq, Repr

structure SessionServiceSettings where
  baseUrl : String
  identityPath : String := "/applications/new"
  timeoutSeconds : Nat := 10
  deriving DecidableEq, Repr

structure FanOutSettings where
  maxFeedRestarts : Nat := 5
  restartBackoffMilliseconds : Nat := 1000
  deriving DecidableEq, Repr

structure Settings where
  server : ServerSettings := {}
  database : DatabaseSettings
  sessionService : SessionServiceSettings
  fanOut : FanOutSettings := {}
  deriving DecidableEq, Repr

end SharedEditing
