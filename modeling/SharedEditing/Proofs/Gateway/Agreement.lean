import SharedEditing.Proofs.Gateway.Journal

/-! # The tables of a registry agree

A registry says who is where in three tables that every operation edits by hand.
After any run of a gateway, whatever its events and their arguments, the tables say
the same thing. -/

namespace SharedEditing

structure Registry.TablesAgree (registry : Registry) : Prop where
  membership : ∀ client room,
    (∃ connection, registry.connections.get? client = some connection ∧ room ∈ connection.rooms) ↔
      ∃ members, registry.rooms.get? room = some members ∧ client ∈ members
  nodup_rooms : ∀ client connection,
    registry.connections.get? client = some connection → connection.rooms.Nodup
  nodup_members : ∀ room members, registry.rooms.get? room = some members → members.Nodup
  nodup_listeners : ∀ email listeners,
    registry.channels.get? email = some listeners → listeners.Nodup
  occupied_rooms : ∀ room members, registry.rooms.get? room = some members → members ≠ []
  occupied_channels : ∀ email listeners,
    registry.channels.get? email = some listeners → listeners ≠ []
  live_members : ∀ room members, registry.rooms.get? room = some members →
    ∀ client ∈ members, registry.isLive client
  live_listeners : ∀ email listeners, registry.channels.get? email = some listeners →
    ∀ client ∈ listeners, registry.isLive client
  one_room : ∀ client connection, registry.connections.get? client = some connection →
    ∀ room ∈ connection.rooms, ∀ other ∈ connection.rooms, room.space = other.space → room = other
  unknown_roomless : ∀ client connection, registry.connections.get? client = some connection →
    connection.standing.identity? = none → connection.rooms = []
  channel : ∀ email client,
    (∃ listeners, registry.channels.get? email = some listeners ∧ client ∈ listeners) ↔
      ∃ connection identity, registry.connections.get? client = some connection ∧
        connection.space = .app ∧ connection.standing = .known identity ∧ identity.email = email

namespace Registry

variable {registry : Registry}

theorem mem_roomsOf_iff {client : ClientId} {room : Room} : room ∈ registry.roomsOf client ↔
    ∃ connection, registry.connections.get? client = some connection ∧ room ∈ connection.rooms := by
  unfold roomsOf
  cases registry.connections.get? client <;> simp

theorem mem_membersOf_iff {client : ClientId} {room : Room} : client ∈ registry.membersOf room ↔
    ∃ members, registry.rooms.get? room = some members ∧ client ∈ members := by
  unfold membersOf Table.getD
  cases registry.rooms.get? room <;> simp

theorem mem_listeners_iff {client : ClientId} {email : String} :
    client ∈ registry.listeners email ↔
      ∃ listeners, registry.channels.get? email = some listeners ∧ client ∈ listeners := by
  unfold listeners Table.getD
  cases registry.channels.get? email <;> simp

theorem membersOf_of_get? {room : Room} {members : List ClientId}
    (found : registry.rooms.get? room = some members) : registry.membersOf room = members := by
  simp [membersOf, Table.getD, found]

theorem listeners_of_get? {email : String} {listeners : List ClientId}
    (found : registry.channels.get? email = some listeners) :
    registry.listeners email = listeners := by
  simp [Registry.listeners, Table.getD, found]

theorem WellFormed.live_of_member (wellFormed : registry.WellFormed) {client : ClientId}
    {room : Room} (member : client ∈ registry.membersOf room) : registry.isLive client := by
  rcases wellFormed.known_member member with ⟨space, identity, known⟩
  rw [isLive_iff, known]
  exact Option.some_ne_none _

theorem WellFormed.live_of_listener (wellFormed : registry.WellFormed) {client : ClientId}
    {email : String} (listening : client ∈ registry.listeners email) :
    registry.isLive client := by
  rcases (wellFormed.listening email client).mp listening with ⟨identity, known, _⟩
  rw [isLive_iff, known]
  exact Option.some_ne_none _

theorem WellFormed.tablesAgree (wellFormed : registry.WellFormed) : registry.TablesAgree where
  membership client room := by
    rw [← mem_roomsOf_iff, ← mem_membersOf_iff]
    exact wellFormed.agree client room
  nodup_rooms client connection found :=
    registry.roomsOf_of_connection client found ▸ wellFormed.nodup_rooms client
  nodup_members room members found := membersOf_of_get? found ▸ wellFormed.nodup_members room
  nodup_listeners email listeners found :=
    listeners_of_get? found ▸ wellFormed.nodup_listeners email
  occupied_rooms room members found emptied :=
    wellFormed.occupied_rooms room (emptied ▸ found)
  occupied_channels email listeners found emptied :=
    wellFormed.occupied_channels email (emptied ▸ found)
  live_members room members found client member :=
    wellFormed.live_of_member (mem_membersOf_iff.mpr ⟨members, found, member⟩)
  live_listeners email listeners found client listening :=
    wellFormed.live_of_listener (mem_listeners_iff.mpr ⟨listeners, found, listening⟩)
  one_room client connection found :=
    registry.roomsOf_of_connection client found ▸ wellFormed.one_room client
  unknown_roomless client connection found unknown := by
    rw [← registry.roomsOf_of_connection client found]
    have profile := registry.profileOf_of_connection client found
    cases standing : connection.standing with
    | waiting parked =>
        rw [standing] at profile
        exact wellFormed.roomsOf_of_waiting profile
    | known identity => simp [standing, Standing.identity?] at unknown
  channel email client := by
    rw [← mem_listeners_iff, wellFormed.listening]
    simp only [profileOf, Option.map_eq_some_iff, Prod.mk.injEq]
    constructor
    · intro person
      rcases person with ⟨identity, ⟨connection, found, app, known⟩, own⟩
      exact ⟨connection, identity, found, app, known, own⟩
    · intro person
      rcases person with ⟨connection, identity, found, app, known, own⟩
      exact ⟨identity, ⟨connection, found, app, known⟩, own⟩

end Registry

open GatewayEvent

/-- Whatever happens at a gateway, the tables of its registry agree. -/
theorem Journal.tables_agree (observers : Observers) {events : List GatewayEvent}
    (fresh : FreshIds events) : (Journal.of observers events).gateway.registry.TablesAgree :=
  (Journal.wellFormed observers fresh).tablesAgree

/-- A person in rooms of both families, another who waits, and requests of nobody. -/
theorem Journal.tables_agree_of_three :
    let events : List GatewayEvent :=
      [.connect ⟨"a"⟩ .app ⟨2, [], true⟩, .connect ⟨"b"⟩ .page ⟨2, [], true⟩,
        .requestJoin ⟨"a"⟩ ⟨.app, "1"⟩, .authenticate ⟨"a"⟩ ⟨"Ann", "ann@x"⟩,
        .requestJoin ⟨"a"⟩ ⟨.page, "1"⟩, .requestJoin ⟨"b"⟩ ⟨.page, "1"⟩,
        .leave ⟨"c"⟩ ⟨.page, "1"⟩, .requestJoin ⟨"c"⟩ ⟨.page, "1"⟩]
    FreshIds events ∧
      (Journal.of .standard events).gateway.registry.roomsOf ⟨"a"⟩ = [⟨.app, "1"⟩, ⟨.page, "1"⟩] ∧
      (Journal.of .standard events).gateway.registry.TablesAgree :=
  ⟨by decide, by decide, Journal.tables_agree .standard (by decide)⟩

end SharedEditing
