import SharedEditing.Change.Event
import SharedEditing.Table

/-! # A change feed kept in memory

A feed hands changes to subscriptions. A subscription queues what it is sent
until it is received; what is queued when the feed ends it is still received
first. An item is a change or the reason why one could not be read. -/

namespace SharedEditing

inductive FeedError where
  | database (reason : String)
  | decode (channel : String) (reason : String)
  deriving DecidableEq, Repr

def FeedError.message : FeedError → String
  | database reason => "Datastore error: " ++ reason
  | decode channel reason =>
      "Undecodable change notification on " ++ channel ++ ": " ++ reason

abbrev FeedItem := Except FeedError Change

structure Subscription where
  collection : Collection
  queue : List FeedItem := []
  /-- The feed still sends into it. -/
  isFed : Bool := true
  /-- Its reader still holds it. -/
  isHeld : Bool := true

inductive Received where
  | item (item : FeedItem)
  /-- Nothing yet. -/
  | nothing
  | ended

/-- Subscriptions are known by their place in the list, and stay there. -/
structure MemoryFeed where
  subscriptions : List Subscription := []
  watchCalls : Table Collection Nat := {}
  isUnavailable : Bool := false

namespace MemoryFeed

/-- Open a subscription. The call counts whether it succeeds or not. -/
def watch (feed : MemoryFeed) (collection : Collection) : MemoryFeed × Except FeedError Nat :=
  let called :=
    { feed with
      watchCalls := feed.watchCalls.set collection (feed.watchCalls.getD collection 0 + 1) }
  if feed.isUnavailable then
    (called, .error (.database "feed unavailable"))
  else
    ({ called with subscriptions := called.subscriptions ++ [{ collection }] },
      .ok feed.subscriptions.length)

def reaches (collection : Collection) (subscription : Subscription) : Bool :=
  subscription.collection == collection && subscription.isFed && subscription.isHeld

def openSubscriptions (feed : MemoryFeed) (collection : Collection) : Nat :=
  (feed.subscriptions.filter (reaches collection)).length

def send (feed : MemoryFeed) (collection : Collection) (item : FeedItem) : MemoryFeed :=
  { feed with
    subscriptions := feed.subscriptions.map fun subscription =>
      if reaches collection subscription then
        { subscription with queue := subscription.queue ++ [item] }
      else
        subscription }

def endStreams (feed : MemoryFeed) (collection : Collection) : MemoryFeed :=
  { feed with
    subscriptions := feed.subscriptions.map fun subscription =>
      if subscription.collection = collection then { subscription with isFed := false }
      else subscription }

def peek (feed : MemoryFeed) (place : Nat) : Received :=
  match feed.subscriptions[place]? with
  | none => .ended
  | some subscription =>
      match subscription.queue with
      | item :: _ => .item item
      | [] => if subscription.isFed then .nothing else .ended

def take (feed : MemoryFeed) (place : Nat) : MemoryFeed :=
  { feed with
    subscriptions := feed.subscriptions.modify place fun subscription =>
      { subscription with queue := subscription.queue.tail } }

/-- Let go of a subscription. What is still queued is lost. -/
def release (feed : MemoryFeed) (place : Nat) : MemoryFeed :=
  { feed with
    subscriptions := feed.subscriptions.modify place fun subscription =>
      { subscription with isHeld := false, queue := [] } }

def queued (feed : MemoryFeed) (place : Nat) : Nat :=
  match feed.subscriptions[place]? with
  | some subscription => subscription.queue.length
  | none => 0

end MemoryFeed

end SharedEditing
