import SharedEditing.Proofs.Registry.Views

/-! # Well-formed registries

The tables of a registry say the same thing three times. A registry is well formed
if they agree: rooms list their members exactly, a connection is in one room of each
family at most, only known people are in rooms, and a channel lists exactly the
application connections of its person.

Every operation on connections that exist is a sequence of shifts, each of which
moves one connection once. A shift keeps a registry well formed, and so does the
opening of a connection under a new identifier. -/

namespace SharedEditing.Registry

structure WellFormed (registry : Registry) : Prop where
  agree : ∀ client room, room ∈ registry.roomsOf client ↔ client ∈ registry.membersOf room
  nodup_rooms : ∀ client, (registry.roomsOf client).Nodup
  nodup_members : ∀ room, (registry.membersOf room).Nodup
  /-- No room is kept for nobody. -/
  occupied_rooms : ∀ room, registry.rooms.get? room ≠ some []
  one_room : ∀ client, ∀ room ∈ registry.roomsOf client, ∀ other ∈ registry.roomsOf client,
    room.space = other.space → room = other
  /-- Only known people are in rooms. -/
  known : ∀ client, ∀ room ∈ registry.roomsOf client,
    ∃ space identity, registry.profileOf client = some (space, .known identity)
  listening : ∀ email client, client ∈ registry.listeners email ↔
    ∃ identity, registry.profileOf client = some (.app, .known identity) ∧ identity.email = email
  nodup_listeners : ∀ email, (registry.listeners email).Nodup
  /-- No channel is kept for nobody. -/
  occupied_channels : ∀ email, registry.channels.get? email ≠ some []

theorem WellFormed.empty : WellFormed {} where
  agree _ _ := by simp [roomsOf, membersOf, Table.getD]
  nodup_rooms _ := by simp [roomsOf]
  nodup_members _ := by simp [membersOf, Table.getD]
  occupied_rooms _ := by simp
  one_room _ _ member := by simp [roomsOf] at member
  known _ _ member := by simp [roomsOf] at member
  listening _ _ := by simp [listeners, Table.getD, profileOf]
  nodup_listeners _ := by simp [listeners, Table.getD]
  occupied_channels _ := by simp

/-! ## What follows from agreement -/

namespace WellFormed

variable {registry : Registry} {client : ClientId} {room : Room}

theorem known_member (wellFormed : registry.WellFormed)
    (member : client ∈ registry.membersOf room) :
    ∃ space identity, registry.profileOf client = some (space, .known identity) :=
  wellFormed.known client room ((wellFormed.agree client room).mpr member)

theorem roomsOf_of_waiting (wellFormed : registry.WellFormed) {space : Space}
    {parked : Option Room}
    (waiting : registry.profileOf client = some (space, .waiting parked)) :
    registry.roomsOf client = [] := by
  apply List.eq_nil_iff_forall_not_mem.mpr
  intro room held
  rcases wellFormed.known client room held with ⟨_, _, known⟩
  simp [waiting] at known

theorem not_mem_members_of_roomless (wellFormed : registry.WellFormed)
    (roomless : registry.roomsOf client = []) (room : Room) : client ∉ registry.membersOf room := by
  intro member
  have held := (wellFormed.agree client room).mpr member
  simp [roomless] at held

theorem not_listening_of_waiting (wellFormed : registry.WellFormed) {space : Space}
    {parked : Option Room}
    (waiting : registry.profileOf client = some (space, .waiting parked)) (email : String) :
    client ∉ registry.listeners email := by
  intro member
  rcases (wellFormed.listening email client).mp member with ⟨_, known, _⟩
  simp [waiting] at known

theorem eq_of_members (wellFormed : registry.WellFormed) {other : Room}
    (member : client ∈ registry.membersOf room) (also : client ∈ registry.membersOf other)
    (sameSpace : room.space = other.space) : room = other :=
  wellFormed.one_room client room ((wellFormed.agree client room).mpr member) other
    ((wellFormed.agree client other).mpr also) sameSpace

theorem members_eq_map (wellFormed : registry.WellFormed) (room : Room) :
    registry.members room =
      (registry.membersOf room).map fun client => ⟨client, registry.identityOf client⟩ := by
  have described : ∀ client ∈ registry.membersOf room,
      (registry.connections.get? client).map
          (fun connection => (⟨client, connection.standing.identity?⟩ : Member)) =
        some ⟨client, registry.identityOf client⟩ := by
    intro client member
    rcases wellFormed.known_member member with ⟨space, identity, profile⟩
    have found := registry.connection_of_profileOf client profile
    simp [identityOf, found]
  exact List.filterMap_eq_map_iff_forall_eq_some.mpr described

theorem map_client_members (wellFormed : registry.WellFormed) (room : Room) :
    (registry.members room).map Member.client = registry.membersOf room := by
  rw [wellFormed.members_eq_map, List.map_map]
  exact List.map_id _

theorem map_identity_members (wellFormed : registry.WellFormed) (room : Room) :
    (registry.members room).map Member.identity =
      (registry.membersOf room).map registry.identityOf := by
  rw [wellFormed.members_eq_map, List.map_map]
  rfl

theorem exists_identities (wellFormed : registry.WellFormed) (room : Room) :
    ∃ identities : List Identity,
      (registry.membersOf room).map registry.identityOf = identities.map some := by
  have known : ∀ client ∈ registry.membersOf room, (registry.identityOf client).isSome := by
    intro client member
    rcases wellFormed.known_member member with ⟨space, identity, profile⟩
    rw [identityOf_eq, profile]
    rfl
  revert known
  generalize registry.membersOf room = clients
  intro known
  induction clients with
  | nil => exact ⟨[], rfl⟩
  | cons first rest induction =>
      rcases induction fun client member => known client (.tail first member) with
        ⟨identities, same⟩
      rcases Option.isSome_iff_exists.mp (known first (.head rest)) with ⟨identity, found⟩
      exact ⟨identity :: identities, by simp [found, same]⟩

/-- What becomes of a connection that is in no room is not seen in any. -/
theorem members_of_others (wellFormed : registry.WellFormed)
    (roomless : registry.roomsOf client = []) {after : Registry}
    (members : after.membersOf room = registry.membersOf room)
    (others : ∀ other, client ≠ other → after.profileOf other = registry.profileOf other) :
    after.members room = registry.members room := by
  apply members_congr members
  intro other member
  apply others other
  intro equal
  subst equal
  exact wellFormed.not_mem_members_of_roomless roomless room member

private theorem connections_removeMember (wellFormed : registry.WellFormed)
    (absent : client ∉ registry.membersOf room) :
    registry.connections.modify client (fun connection =>
      { connection with rooms := connection.rooms.filter (· ≠ room) }) = registry.connections := by
  apply Table.modify_of_fixed
  intro connection found
  have unheld : room ∉ connection.rooms := by
    intro held
    rw [← registry.roomsOf_of_connection client found] at held
    exact absent ((wellFormed.agree client room).mp held)
  rw [filter_ne_of_not_mem unheld]

private theorem rooms_reset (wellFormed : registry.WellFormed) :
    (if (registry.membersOf room).isEmpty then registry.rooms.erase room
      else registry.rooms.set room (registry.membersOf room)) = registry.rooms := by
  unfold membersOf Table.getD
  cases found : registry.rooms.get? room with
  | none => exact Table.erase_of_get?_eq_none found
  | some members =>
      have occupied : members ≠ [] := fun emptied =>
        wellFormed.occupied_rooms room (emptied ▸ found)
      simp only [Option.getD_some, List.isEmpty_iff, occupied, if_false]
      exact Table.set_of_get?_eq_some found

theorem removeMember_of_not_mem (wellFormed : registry.WellFormed)
    (absent : client ∉ registry.membersOf room) : registry.removeMember client room = registry := by
  simp only [removeMember, filter_ne_of_not_mem absent, wellFormed.connections_removeMember absent,
    wellFormed.rooms_reset]

end WellFormed

end SharedEditing.Registry
