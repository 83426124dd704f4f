import SharedEditing.Registry.Basic

/-! # Joining and leaving

A connection is in at most one room of each family. Joining a room first leaves
every room of that family, the room itself included, and each room left is
reported before the room joined. An unknown person joins nothing: the latest
request waits until the identity is known, and is then carried out. -/

namespace SharedEditing

structure Registry.Step (α : Type) where
  answer : α
  registry : Registry
  movements : List Movement := []

inductive JoinAnswer where
  | joined (room : Room)
  /-- The request waits for the connection's identity. -/
  | parked
  /-- There is no such connection. -/
  | disconnected
  deriving DecidableEq, Repr

namespace Registry

/-! ## Single changes -/

def addMember (registry : Registry) (client : ClientId) (room : Room) : Registry :=
  let members := registry.membersOf room
  { registry with
    connections := registry.connections.modify client fun connection =>
      if room ∈ connection.rooms then connection
      else { connection with rooms := connection.rooms ++ [room] }
    rooms := registry.rooms.set room (if client ∈ members then members else members ++ [client]) }

/-- Take a connection out of a room. A room without members is forgotten. -/
def removeMember (registry : Registry) (client : ClientId) (room : Room) : Registry :=
  let remaining := (registry.membersOf room).filter (· ≠ client)
  { registry with
    connections := registry.connections.modify client fun connection =>
      { connection with rooms := connection.rooms.filter (· ≠ room) }
    rooms :=
      if remaining.isEmpty then registry.rooms.erase room
      else registry.rooms.set room remaining }

def subscribe (registry : Registry) (client : ClientId) (email : String) : Registry :=
  let present := registry.listeners email
  { registry with
    channels :=
      registry.channels.set email (if client ∈ present then present else present ++ [client]) }

def unsubscribe (registry : Registry) (client : ClientId) (email : String) : Registry :=
  let remaining := (registry.listeners email).filter (· ≠ client)
  { registry with
    channels :=
      if remaining.isEmpty then registry.channels.erase email
      else registry.channels.set email remaining }

/-! ## Movements -/

/-- Leave a room. Only a member's leaving is reported. -/
def leaveRoom (registry : Registry) (client : ClientId) (room : Room) :
    Registry × List Movement :=
  let after := registry.removeMember client room
  if client ∈ registry.membersOf room then (after, [.left room client (after.members room)])
  else (after, [])

def leaveRooms (registry : Registry) (client : ClientId) :
    List Room → Registry × List Movement
  | [] => (registry, [])
  | room :: rest =>
      let (left, movements) := registry.leaveRoom client room
      let (after, more) := left.leaveRooms client rest
      (after, movements ++ more)

def enterRoom (registry : Registry) (client : ClientId) (room : Room) :
    Registry × List Movement :=
  let after := registry.addMember client room
  (after, [.joined room client (after.members room)])

/-- Leave every room of the family, then enter the room. -/
def joinExclusive (registry : Registry) (client : ClientId) (room : Room) :
    Registry × List Movement :=
  let held := (registry.roomsOf client).filter fun other => other.space = room.space
  let (left, movements) := registry.leaveRooms client held
  let (after, more) := left.enterRoom client room
  (after, movements ++ more)

/-! ## Operations -/

def connect (registry : Registry) (client : ClientId) (space : Space) : Registry :=
  { registry with connections := registry.connections.set client { space } }

def withStanding (registry : Registry) (client : ClientId) (standing : Standing) : Registry :=
  { registry with
    connections := registry.connections.modify client fun connection =>
      { connection with standing } }

/-- Attach an identity to a connection, once. An application connection then
listens for its email address, and the request that waited is carried out. -/
def authenticate (registry : Registry) (client : ClientId) (identity : Identity) : Step Bool :=
  match registry.connections.get? client with
  | none => ⟨false, registry, []⟩
  | some connection =>
      match connection.standing with
      | .known _ => ⟨false, registry, []⟩
      | .waiting parked =>
          let known := registry.withStanding client (.known identity)
          let listening :=
            if connection.space = .app then known.subscribe client identity.email else known
          match parked with
          | none => ⟨true, listening, []⟩
          | some room =>
              let (after, movements) := listening.joinExclusive client room
              ⟨true, after, movements⟩

def requestJoin (registry : Registry) (client : ClientId) (room : Room) : Step JoinAnswer :=
  match registry.connections.get? client with
  | none => ⟨.disconnected, registry, []⟩
  | some connection =>
      match connection.standing with
      | .waiting _ => ⟨.parked, registry.withStanding client (.waiting (some room)), []⟩
      | .known _ =>
          let (after, movements) := registry.joinExclusive client room
          ⟨.joined room, after, movements⟩

def withdraw (registry : Registry) (client : ClientId) (room : Room) : Registry :=
  if registry.parkedRoom client = some room then registry.withStanding client (.waiting none)
  else registry

def leave (registry : Registry) (client : ClientId) (room : Room) : Step Unit :=
  let (after, movements) := (registry.withdraw client room).leaveRoom client room
  ⟨(), after, movements⟩

def disconnect (registry : Registry) (client : ClientId) : Step Unit :=
  match registry.connections.get? client with
  | none => ⟨(), registry, []⟩
  | some connection =>
      let (left, movements) := registry.leaveRooms client connection.rooms
      let forgotten := { left with connections := left.connections.erase client }
      let after := match connection.standing.identity? with
        | some identity => forgotten.unsubscribe client identity.email
        | none => forgotten
      ⟨(), after, movements⟩

end Registry

end SharedEditing
