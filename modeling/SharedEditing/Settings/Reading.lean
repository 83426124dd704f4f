import SharedEditing.Settings.Basic
import SharedEditing.Json.Shape

/-! # Reading settings

Settings are written in more than one form: as a JSON value, or as a tree of
words. What is declared is the same in all of them, namely the sections, their
fields, and what the absence of a field means. A form only says how a record is
taken apart and how a single value is read. -/

namespace SharedEditing

open Written (Field)

def bound16 : Nat := Nat.pow 2 16

def bound32 : Nat := Nat.pow 2 32

def bound64 : Nat := Nat.pow 2 64

structure Reading (α : Type) where
  /-- One entry per declared field of a record. -/
  fields? : List Field → α → Option (List (Option α))
  text? : α → Option String
  /-- A natural number below a bound. -/
  natural? : (bound : Nat) → α → Option Nat
  switch? : α → Option Bool
  stage? : α → Option Stage
  /-- Written, but as no value. -/
  isNothing : α → Bool

namespace Reading

variable {α β : Type}

/-- A field with a default. When it is written it must be readable. -/
def orDefault? (fallback : β) (read : α → Option β) : Option α → Option β
  | none => some fallback
  | some written => read written

def optionalText? (reading : Reading α) : Option α → Option (Option String)
  | none => some none
  | some written =>
      if reading.isNothing written then some none else (reading.text? written).map some

def server? (reading : Reading α) (written : α) : Option ServerSettings :=
  let base : ServerSettings := {}
  let declared : List Field :=
    [⟨"host", .default⟩, ⟨"port", .default⟩, ⟨"environment", .default⟩, ⟨"log_level", .default⟩,
      ⟨"request_timeout_secs", .default⟩, ⟨"cors_origins", .noValue⟩,
      ⟨"outbox_capacity", .default⟩]
  match reading.fields? declared written with
  | some [host, port, stage, logLevel, timeout, origins, capacity] => do
      return {
        host := ← orDefault? base.host reading.text? host
        port := ← orDefault? base.port (reading.natural? bound16) port
        stage := ← orDefault? base.stage reading.stage? stage
        logLevel := ← orDefault? base.logLevel reading.text? logLevel
        requestTimeoutSeconds :=
          ← orDefault? base.requestTimeoutSeconds (reading.natural? bound64) timeout
        corsOrigins := ← reading.optionalText? origins
        outboxCapacity := ← orDefault? base.outboxCapacity (reading.natural? bound64) capacity }
  | _ => none

def database? (reading : Reading α) (written : α) : Option DatabaseSettings :=
  let base : DatabaseSettings := { url := "" }
  let declared : List Field :=
    [⟨"url", .refused⟩, ⟨"max_connections", .default⟩, ⟨"acquire_timeout_secs", .default⟩,
      ⟨"run_migrations", .default⟩]
  match reading.fields? declared written with
  | some [some url, connections, timeout, migrations] => do
      return {
        url := ← reading.text? url
        maxConnections := ← orDefault? base.maxConnections (reading.natural? bound32) connections
        acquireTimeoutSeconds :=
          ← orDefault? base.acquireTimeoutSeconds (reading.natural? bound64) timeout
        runMigrations := ← orDefault? base.runMigrations reading.switch? migrations }
  | _ => none

def sessionService? (reading : Reading α) (written : α) : Option SessionServiceSettings :=
  let base : SessionServiceSettings := { baseUrl := "" }
  let declared : List Field :=
    [⟨"base_url", .refused⟩, ⟨"identity_path", .default⟩, ⟨"timeout_secs", .default⟩]
  match reading.fields? declared written with
  | some [some url, path, timeout] => do
      return {
        baseUrl := ← reading.text? url
        identityPath := ← orDefault? base.identityPath reading.text? path
        timeoutSeconds := ← orDefault? base.timeoutSeconds (reading.natural? bound64) timeout }
  | _ => none

def fanOut? (reading : Reading α) (written : α) : Option FanOutSettings :=
  let base : FanOutSettings := {}
  let declared : List Field := [⟨"max_feed_restarts", .default⟩, ⟨"restart_backoff_ms", .default⟩]
  match reading.fields? declared written with
  | some [restarts, backoff] => do
      return {
        maxFeedRestarts := ← orDefault? base.maxFeedRestarts (reading.natural? bound32) restarts
        restartBackoffMilliseconds :=
          ← orDefault? base.restartBackoffMilliseconds (reading.natural? bound64) backoff }
  | _ => none

def settings? (reading : Reading α) (written : α) : Option Settings :=
  let declared : List Field :=
    [⟨"server", .default⟩, ⟨"database", .refused⟩, ⟨"session_service", .refused⟩,
      ⟨"fanout", .default⟩]
  match reading.fields? declared written with
  | some [server, some database, some session, fanOut] => do
      return {
        server := ← orDefault? {} reading.server? server
        database := ← reading.database? database
        sessionService := ← reading.sessionService? session
        fanOut := ← orDefault? {} reading.fanOut? fanOut }
  | _ => none

end Reading

end SharedEditing
