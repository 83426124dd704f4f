import SharedEditing.Store.Feed
import SharedEditing.Store.Link
import SharedEditing.Store.Threads
import SharedEditing.Table

/-! # A store with one listener

Rows of every table, the link to them, and one feed that listens for the changes
of a collection. A listener that loses its connection opens another one; its
feed ends when that fails. Every query that the store receives is recorded. -/

namespace SharedEditing

structure Store where
  rows : Collection → Table String Json
  link : Link := .up
  /-- The store receives queries and fails to answer them. -/
  isFailing : Bool := false
  /-- The tables that were asked, in order. -/
  queried : List String := []

namespace Store

def queryFailure (cause : String) : String := "error returned from database: " ++ cause

/-- Ask a table. A query that does not reach the store is not recorded. -/
def ask {α : Type} (collection : Collection) (read : Table String Json → Except String α) :
    StateM Store (Except String α) := do
  let store ← get
  match store.link.fault? with
  | some fault => return .error fault
  | none =>
      set { store with queried := store.queried ++ [collection.table] }
      if store.isFailing then
        return .error (queryFailure "query failed")
      else
        return (read (store.rows collection)).mapError queryFailure

def document : DocumentQuery (StateM Store) := fun collection withheld id =>
  ask collection fun rows =>
    match rows.get? id with
    | none => .ok none
    | some value =>
        match value.without? withheld with
        | some redacted => .ok (some redacted)
        | none => .error "cannot delete from scalar"

def application : ApplicationQuery (StateM Store) := fun thread =>
  ask .commentThread fun rows =>
    .ok ((rows.get? thread).map fun value => value.fieldText? StoreThreads.applicationKey)

def setRow (store : Store) (id : String) (value : Json) : Store :=
  { store with rows := fun collection => (store.rows collection).set id value }

def eraseRow (store : Store) (id : String) : Store :=
  { store with rows := fun collection => (store.rows collection).erase id }

end Store

structure StoreSession where
  store : Store
  collection : Collection
  /-- The listener has not failed. -/
  isListening : Bool

namespace StoreSession

def watch (store : Store) (collection : Collection) : Except FeedError StoreSession :=
  match store.link.fault? with
  | some fault => .error (StoreFeed.openFailure fault)
  | none => .ok { store, collection, isListening := true }

/-- What the listener hears when a payload is announced. Without a link it fails. -/
def heard (session : StoreSession) (payload : String) : Heard :=
  match session.store.link.fault? with
  | some fault => .failure fault
  | none => .payload payload

/-- Announce a payload on the channel of the collection, and take the next item.
None once the feed has ended. -/
def announce (session : StoreSession) (payload : String) : Option FeedItem × StoreSession :=
  if session.isListening then
    match session.heard payload with
    | .failure _ => (none, { session with isListening := false })
    | .payload text =>
        let (item, store) :=
          (StoreFeed.item Store.document session.collection text).run session.store
        (some item, { session with store })
  else
    (none, session)

def applicationOf (session : StoreSession) (thread : String) :
    Except LookupError (Option String) × StoreSession :=
  let (answer, store) := (StoreThreads.applicationOf Store.application thread).run session.store
  (answer, { session with store })

/-- Change the link. A listener that finds no new connection fails at once. -/
def relink (session : StoreSession) (link : Link) : StoreSession :=
  { session with
    store := { session.store with link }
    isListening := session.isListening && link.fault?.isNone }

end StoreSession

end SharedEditing
