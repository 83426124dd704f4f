import SharedEditing.Feed.Memory
import SharedEditing.Store.Announcement
import SharedEditing.Store.Redaction

/-! # The feed of the store

Each announcement becomes one item of the feed: a change with the document as it
is now, or the reason why there is none. An announcement that cannot be read
asks the store nothing, and neither does a deletion. The feed ends where its
listener fails; nothing else ends it. The store may live in any monad. -/

namespace SharedEditing

/-- Asks for the value of a row without some of its fields. None if the row is gone;
an error gives the store's reason for not answering. -/
abbrev DocumentQuery (m : Type → Type) :=
  Collection → (withheld : List String) → (id : String) → m (Except String (Option Json))

inductive Heard where
  | payload (text : String)
  | failure (reason : String)
  deriving DecidableEq, Repr

namespace StoreFeed

def fetchFailure (collection : Collection) (id reason : String) : FeedError :=
  .database ("Failed to fetch " ++ collection.name ++ " " ++ id ++ ": " ++ reason)

def openFailure (reason : String) : FeedError :=
  .database ("Failed to open listener: " ++ reason)

def answered (collection : Collection) (announcement : Announcement) :
    Except String (Option Json) → FeedItem
  | .error reason => .error (fetchFailure collection announcement.id reason)
  | .ok value =>
      .ok
        { collection
          operation := announcement.operation
          id := announcement.id
          document := value.bind (Redaction.document? announcement.id) }

def announced {m : Type → Type} [Monad m] (query : DocumentQuery m) (collection : Collection)
    (announcement : Announcement) : m FeedItem :=
  match announcement.operation with
  | .delete => pure (.ok ⟨collection, .delete, announcement.id, none⟩)
  | _ => do
      let answer ← query collection collection.internalFields announcement.id
      return answered collection announcement answer

def item {m : Type → Type} [Monad m] (query : DocumentQuery m) (collection : Collection)
    (text : String) : m FeedItem :=
  match Announcement.ofText text with
  | .error fault => pure (.error (.decode collection.channel fault.message))
  | .ok announcement => announced query collection announcement

def items {m : Type → Type} [Monad m] (query : DocumentQuery m) (collection : Collection) :
    List Heard → m (List FeedItem)
  | [] => pure []
  | .failure _ :: _ => pure []
  | .payload text :: rest => do
      let first ← item query collection text
      return first :: (← items query collection rest)

end StoreFeed

end SharedEditing
