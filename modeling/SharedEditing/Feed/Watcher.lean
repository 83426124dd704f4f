import SharedEditing.Change.Threads
import SharedEditing.Feed.Memory
import SharedEditing.Waiting

/-! # Watching a collection

A watcher keeps one collection's subscription open and hands every change it
receives to fan-out. When the subscription ends, or cannot be opened, the
watcher rests and opens another, and after so many failures without a change in
between it gives up. A watcher that waits, for an item or at rest, also waits
for the shutdown switch. While the feed has yet to answer it waits for nothing
else.

A watcher moves in single steps, from one place where it waits to the next.
Where an item and the switch are both ready, either may be served first, so a
step takes the choice as an argument. -/

namespace SharedEditing

structure RestartPolicy where
  maxRestarts : Nat := 5
  /-- In milliseconds. -/
  backoff : Nat := 1000
  deriving DecidableEq, Repr

/-- A switch that watchers are told about: its value, how often it was set, and
whether anybody is left who could set it. -/
structure ShutdownSwitch where
  isOn : Bool := false
  settings : Nat := 0
  isHeld : Bool := true
  deriving DecidableEq, Repr

namespace ShutdownSwitch

/-- Setting the switch counts as news even when its value stays. Once the switch is
abandoned nobody can set it. -/
def turn (switch : ShutdownSwitch) (isOn : Bool) : ShutdownSwitch :=
  if switch.isHeld then { switch with isOn, settings := switch.settings + 1 } else switch

def abandon (switch : ShutdownSwitch) : ShutdownSwitch := { switch with isHeld := false }

/-- What somebody who has seen the first `seen` settings is told, if anything. -/
inductive News where
  | none
  | set
  | abandoned
  deriving DecidableEq, Repr

def news (switch : ShutdownSwitch) (seen : Nat) : News :=
  if seen ≠ switch.settings then .set else if switch.isHeld then .none else .abandoned

end ShutdownSwitch

inductive FeedExit where
  | shutdown
  /-- The restarts were used up. -/
  | exhausted
  deriving DecidableEq, Repr

inductive WatcherPhase where
  /-- About to look at the switch and ask for a subscription. -/
  | opening
  /-- It has asked, and awaits this answer: a subscription, or none. -/
  | asking (answer : Option Nat)
  | reading (subscription : Nat)
  /-- At rest until a time. -/
  | resting (wakeAt : Nat)
  | finished (exit : FeedExit)
  deriving DecidableEq, Repr

/-- The subscription that a watcher has, or is about to be given. -/
def WatcherPhase.subscription? : WatcherPhase → Option Nat
  | .asking answer => answer
  | .reading subscription => some subscription
  | _ => none

structure Watcher where
  collection : Collection
  policy : RestartPolicy := {}
  /-- Failures since the last change. -/
  failures : Nat := 0
  /-- How many settings of the switch it has been told of. -/
  seen : Nat := 0
  phase : WatcherPhase := .opening
  deriving DecidableEq, Repr

structure FeedWorld where
  /-- In milliseconds. -/
  clock : Nat := 0
  switch : ShutdownSwitch := {}
  feed : MemoryFeed := {}
  recorder : Recorder := {}

inductive Preference where
  | switch
  | other
  deriving DecidableEq, Repr

namespace Watcher

def exit? (watcher : Watcher) : Option FeedExit :=
  match watcher.phase with
  | .finished exit => some exit
  | _ => none

def finish (watcher : Watcher) (exit : FeedExit) : Watcher :=
  { watcher with phase := .finished exit }

def failed (watcher : Watcher) (now : Nat) : Watcher :=
  if watcher.policy.maxRestarts ≤ watcher.failures then
    watcher.finish .exhausted
  else
    { watcher with
      failures := watcher.failures + 1
      phase := .resting (wakeTime now watcher.policy.backoff) }

def told (watcher : Watcher) (switch : ShutdownSwitch) : Watcher :=
  { watcher with seen := switch.settings }

def openFeed (watcher : Watcher) (world : FeedWorld) : Watcher × FeedWorld :=
  if world.switch.isOn then
    (watcher.finish .shutdown, world)
  else
    let (feed, answer) := world.feed.watch watcher.collection
    ({ watcher with phase := .asking answer.toOption }, { world with feed })

def answered (watcher : Watcher) (now : Nat) : Option Nat → Watcher
  | some place => { watcher with phase := .reading place }
  | none => watcher.failed now

def closeFeed (watcher : Watcher) (world : FeedWorld) (place : Nat) : Watcher × FeedWorld :=
  (watcher.finish .shutdown, { world with feed := world.feed.release place })

/-- Take what waits at the front of the subscription. A change is handed to
fan-out and clears the failures; an unreadable one is passed over. -/
def receive (watcher : Watcher) (world : FeedWorld) (place : Nat) :
    Option (Watcher × FeedWorld) :=
  match world.feed.peek place with
  | .nothing => none
  | .ended =>
      some (watcher.failed world.clock, { world with feed := world.feed.release place })
  | .item (.error _) => some (watcher, { world with feed := world.feed.take place })
  | .item (.ok change) =>
      let (_, recorder) := world.recorder.handle change
      some ({ watcher with failures := 0 }, { world with feed := world.feed.take place, recorder })

def heedReading (watcher : Watcher) (world : FeedWorld) (place : Nat) :
    Option (Watcher × FeedWorld) :=
  match world.switch.news watcher.seen with
  | .none => none
  | .abandoned => some (watcher.closeFeed world place)
  | .set =>
      if world.switch.isOn then some ((watcher.told world.switch).closeFeed world place)
      else some (watcher.told world.switch, world)

/-- Heed the switch at rest. Any setting that leaves it off ends the rest. -/
def heedResting (watcher : Watcher) (world : FeedWorld) : Option (Watcher × FeedWorld) :=
  match world.switch.news watcher.seen with
  | .none => none
  | .abandoned => some (watcher.finish .shutdown, world)
  | .set =>
      if world.switch.isOn then some ((watcher.told world.switch).finish .shutdown, world)
      else some ({ watcher.told world.switch with phase := .opening }, world)

def wake (watcher : Watcher) (world : FeedWorld) (wakeAt : Nat) : Option (Watcher × FeedWorld) :=
  if wakeAt ≤ world.clock then some ({ watcher with phase := .opening }, world) else none

def either (preference : Preference) (switch other : Option (Watcher × FeedWorld)) :
    Option (Watcher × FeedWorld) :=
  match preference with
  | .switch => switch.or other
  | .other => other.or switch

def step (preference : Preference) (watcher : Watcher) (world : FeedWorld) :
    Option (Watcher × FeedWorld) :=
  match watcher.phase with
  | .opening => some (watcher.openFeed world)
  | .asking answer => some (watcher.answered world.clock answer, world)
  | .reading place =>
      either preference (watcher.heedReading world place) (watcher.receive world place)
  | .resting wakeAt =>
      either preference (watcher.heedResting world) (watcher.wake world wakeAt)
  | .finished _ => none

def steps (preference : Preference) : (bound : Nat) → Watcher → FeedWorld → Watcher × FeedWorld
  | 0, watcher, world => (watcher, world)
  | bound + 1, watcher, world =>
      match watcher.step preference world with
      | some (watcher, world) => steps preference bound watcher world
      | none => (watcher, world)

/-- Every item takes a step, and each failure at most four: to ask, to be
answered, to fail and to wake. -/
def stepBound (watcher : Watcher) (world : FeedWorld) : Nat :=
  let queued := watcher.phase.subscription?.elim 0 world.feed.queued
  queued + 4 * watcher.policy.maxRestarts + 8

def settle (watcher : Watcher) (world : FeedWorld) : Watcher × FeedWorld :=
  watcher.steps .switch (watcher.stepBound world) world

end Watcher

end SharedEditing
