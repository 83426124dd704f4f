import SharedEditing.Frame.Server
import SharedEditing.Registry.Basic

/-! # Presence

What the members of a room are told when somebody enters or leaves it. In an
application room everybody is sent the full list of editors after each movement.
In a page room those who remain are told who left, and nobody is told who came. -/

namespace SharedEditing

structure Letter where
  recipient : ClientId
  message : ServerMessage
  deriving Repr

namespace Presence

def firstOfEach (seen : List String) : List Identity → List Identity
  | [] => []
  | identity :: rest =>
      if identity.email ∈ seen then firstOfEach seen rest
      else identity :: firstOfEach (identity.email :: seen) rest

/-- The distinct people among members, in joining order. A person with several
connections appears once, as the earliest of them. -/
def editors (members : List Member) : List Identity :=
  firstOfEach [] (members.filterMap fun member => member.identity)

def toAll (members : List Member) (message : ServerMessage) : List Letter :=
  members.map fun member => ⟨member.client, message⟩

inductive Observer where
  /-- Send the list of editors after every movement. -/
  | snapshot
  /-- Announce departures only. -/
  | departure
  deriving DecidableEq, Repr

def Observer.letters : Observer → Movement → List Letter
  | snapshot, movement =>
      toAll movement.members
        (.onlineEditors ⟨movement.room.resource, editors movement.members⟩)
  | departure, .left _ client members => toAll members (.leaveEdit client.text)
  | departure, .joined _ _ _ => []

end Presence

structure Observers where
  app : Option Presence.Observer := some .snapshot
  page : Option Presence.Observer := some .departure
  deriving DecidableEq, Repr

namespace Observers

/-- Snapshots for applications, departures for pages. -/
def standard : Observers := {}

def of (observers : Observers) : Space → Option Presence.Observer
  | .app => observers.app
  | .page => observers.page

def lettersOf (observers : Observers) (movement : Movement) : List Letter :=
  match observers.of movement.room.space with
  | some observer => observer.letters movement
  | none => []

def letters (observers : Observers) (movements : List Movement) : List Letter :=
  movements.flatMap observers.lettersOf

end Observers

end SharedEditing
