import SharedEditing.Feed.Watcher

/-! # Watching all collections

An engine runs watchers over one feed. Between two steps of a watcher anything
may happen to the feed, the threads, the clock and the switch. The engine stops
when all of its watchers have ended. -/

namespace SharedEditing

inductive FeedEvent where
  | publish (change : Change)
  | fail (collection : Collection) (reason : String)
  | endStreams (collection : Collection)
  | setUnavailable (isUnavailable : Bool)
  | setApplication (thread : String) (application : Option String)
  | setLookupsFailing (isFailing : Bool)
  | tick (milliseconds : Nat)
  | turnSwitch (isOn : Bool)
  | abandonSwitch

inductive FeedAnswer where
  | nothing
  /-- How many subscriptions it reached. -/
  | reached (subscriptions : Nat)
  /-- Whether anybody heard of it. -/
  | heard (isHeard : Bool)
  deriving DecidableEq, Repr

namespace FeedWorld

def apply (world : FeedWorld) : FeedEvent → FeedWorld
  | .publish change =>
      { world with feed := world.feed.send change.collection (.ok change) }
  | .fail collection reason =>
      { world with
        feed := world.feed.send collection (.error (.decode collection.name reason)) }
  | .endStreams collection => { world with feed := world.feed.endStreams collection }
  | .setUnavailable isUnavailable =>
      { world with feed := { world.feed with isUnavailable } }
  | .setApplication thread application =>
      { world with
        recorder :=
          { world.recorder with
            threads := world.recorder.threads.setApplication thread application } }
  | .setLookupsFailing isFailing =>
      { world with
        recorder :=
          { world.recorder with threads := { world.recorder.threads with isFailing } } }
  | .tick milliseconds => { world with clock := world.clock + milliseconds }
  | .turnSwitch isOn => { world with switch := world.switch.turn isOn }
  | .abandonSwitch => { world with switch := world.switch.abandon }

end FeedWorld

structure Engine where
  watchers : List Watcher
  world : FeedWorld := {}

namespace Engine

def start (collections : List Collection) (policy : RestartPolicy) (world : FeedWorld) :
    Engine where
  watchers := collections.map fun collection =>
    { collection, policy, seen := world.switch.settings }
  world

/-- The watcher that the engine awaits. It awaits one after another, and those that
have ended by then do not keep it. -/
def awaited? (engine : Engine) : Option Watcher :=
  engine.watchers.find? fun watcher => watcher.exit?.isNone

def isStopped (engine : Engine) : Bool := engine.awaited?.isNone

def answer (engine : Engine) : FeedEvent → FeedAnswer
  | .publish change => .reached (engine.world.feed.openSubscriptions change.collection)
  | .fail collection _ => .reached (engine.world.feed.openSubscriptions collection)
  | .turnSwitch _ => .heard (engine.world.switch.isHeld && !engine.isStopped)
  | _ => .nothing

def apply (engine : Engine) (event : FeedEvent) : Engine :=
  { engine with world := engine.world.apply event }

def settleAll : List Watcher → FeedWorld → List Watcher × FeedWorld
  | [], world => ([], world)
  | watcher :: rest, world =>
      let (settled, world) := watcher.settle world
      let (others, world) := settleAll rest world
      (settled :: others, world)

def settle (engine : Engine) : Engine :=
  let (watchers, world) := settleAll engine.watchers engine.world
  { watchers, world }

def react (engine : Engine) (event : FeedEvent) : Engine := (engine.apply event).settle

end Engine

end SharedEditing
