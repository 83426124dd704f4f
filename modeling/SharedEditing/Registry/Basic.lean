import SharedEditing.Identity
import SharedEditing.Room
import SharedEditing.Table

/-! # The registry of connections

The registry knows every live connection, the rooms it is in and whether its
identity is known. Three tables say the same thing in three ways, so that each
question has a short answer: the rooms of a connection, the members of a room in
the order in which they joined, and the private channel of an email address,
which holds the application connections of that person.

The registry holds no messages. What an operation tells the members of a room is
read off the movements that it reports. -/

namespace SharedEditing

/-- The text that identifies a connection to the server and to its peers. -/
structure ClientId where
  text : String
  deriving DecidableEq, Repr

inductive Standing where
  /-- Not yet. The latest room that the connection asked for waits with it. -/
  | waiting (parked : Option Room)
  | known (identity : Identity)
  deriving DecidableEq, Repr

namespace Standing

def identity? : Standing → Option Identity
  | waiting _ => none
  | known identity => some identity

def parked? : Standing → Option Room
  | waiting parked => parked
  | known _ => none

end Standing

structure Connection where
  /-- The family of rooms whose endpoint the connection was opened on. -/
  space : Space
  standing : Standing := .waiting none
  /-- In joining order. -/
  rooms : List Room := []
  deriving DecidableEq, Repr

structure Registry where
  connections : Table ClientId Connection := {}
  /-- The members of each room that has any, in joining order. -/
  rooms : Table Room (List ClientId) := {}
  /-- The application connections of each email address that has any. -/
  channels : Table String (List ClientId) := {}
  deriving DecidableEq

structure Member where
  client : ClientId
  identity : Option Identity
  deriving DecidableEq, Repr

/-- A connection entered or left a room, with the members after it did. -/
inductive Movement where
  | joined (room : Room) (client : ClientId) (members : List Member)
  | left (room : Room) (client : ClientId) (members : List Member)
  deriving DecidableEq, Repr

namespace Movement

def room : Movement → Room
  | joined room _ _ => room
  | left room _ _ => room

def client : Movement → ClientId
  | joined _ client _ => client
  | left _ client _ => client

def members : Movement → List Member
  | joined _ _ members => members
  | left _ _ members => members

end Movement

namespace Registry

def isLive (registry : Registry) (client : ClientId) : Bool := registry.connections.has client

def roomsOf (registry : Registry) (client : ClientId) : List Room :=
  match registry.connections.get? client with
  | some connection => connection.rooms
  | none => []

def membersOf (registry : Registry) (room : Room) : List ClientId := registry.rooms.getD room []

def members (registry : Registry) (room : Room) : List Member :=
  (registry.membersOf room).filterMap fun client =>
    (registry.connections.get? client).map fun connection =>
      ⟨client, connection.standing.identity?⟩

def listeners (registry : Registry) (email : String) : List ClientId :=
  registry.channels.getD email []

def activeRooms (registry : Registry) : List Room := registry.rooms.keys

def identityOf (registry : Registry) (client : ClientId) : Option Identity :=
  (registry.connections.get? client).bind fun connection => connection.standing.identity?

def isAuthenticated (registry : Registry) (client : ClientId) : Bool :=
  (registry.identityOf client).isSome

def parkedRoom (registry : Registry) (client : ClientId) : Option Room :=
  (registry.connections.get? client).bind fun connection => connection.standing.parked?

def connectionCount (registry : Registry) : Nat := registry.connections.size

def senderContext (registry : Registry) (client : ClientId) (space : Space) :
    Option (Identity × Room) := do
  let connection ← registry.connections.get? client
  let identity ← connection.standing.identity?
  let room ← connection.rooms.find? fun room => room.space == space
  return (identity, room)

end Registry

end SharedEditing
