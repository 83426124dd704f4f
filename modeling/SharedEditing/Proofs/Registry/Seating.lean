import SharedEditing.Proofs.Registry.Operations

/-! # Seatings

A registry with its redundancy taken away. Every live connection has a seat: who sits
there, the request that waits, and the resource that it is at in each family. Every
operation is one change of one seat. The operations of a registry, which edit rooms and
members by loops, come to the same. -/

namespace SharedEditing

structure Seat where
  space : Space
  identity : Option Identity := none
  pending : Option Room := none
  /-- The resource in each family. -/
  current : Space → Option String := fun _ => none

namespace Seat

def sit (seat : Seat) (space : Space) (resource : Option String) : Seat :=
  { seat with
    current := fun other => if other = space then resource else seat.current other }

def join (seat : Seat) (room : Room) : Seat := seat.sit room.space (some room.resource)

def identify (seat : Seat) (identity : Identity) : Seat :=
  let known := { seat with identity := some identity, pending := none }
  match seat.pending with
  | some room => known.join room
  | none => known

def authenticate (seat : Seat) (identity : Identity) : Seat :=
  if seat.identity.isSome then seat else seat.identify identity

def request (seat : Seat) (room : Room) : Seat :=
  if seat.identity.isSome then seat.join room else { seat with pending := some room }

def withdraw (seat : Seat) (room : Room) : Seat :=
  if seat.identity = none ∧ seat.pending = some room then { seat with pending := none } else seat

def vacate (seat : Seat) (room : Room) : Seat :=
  if seat.current room.space = some room.resource then seat.sit room.space none else seat

def leave (seat : Seat) (room : Room) : Seat := (seat.withdraw room).vacate room

def joinAnswer (room : Room) : Option Seat → JoinAnswer
  | none => .disconnected
  | some seat => if seat.identity.isSome then .joined room else .parked

end Seat

abbrev Seating := Table ClientId Seat

namespace Seating

def connect (seating : Seating) (client : ClientId) (space : Space) : Seating :=
  seating.set client { space }

def authenticate (seating : Seating) (client : ClientId) (identity : Identity) :
    Bool × Seating :=
  ((seating.get? client).any fun seat => seat.identity.isNone,
    seating.modify client fun seat => seat.authenticate identity)

def requestJoin (seating : Seating) (client : ClientId) (room : Room) : JoinAnswer × Seating :=
  (Seat.joinAnswer room (seating.get? client), seating.modify client fun seat => seat.request room)

def leave (seating : Seating) (client : ClientId) (room : Room) : Seating :=
  seating.modify client fun seat => seat.leave room

def disconnect (seating : Seating) (client : ClientId) : Seating := seating.erase client

/-! ## Views of a seating -/

def IsIn (seating : Seating) (client : ClientId) (room : Room) : Prop :=
  ∃ seat, seating.get? client = some seat ∧ seat.current room.space = some room.resource

def parkedRoom (seating : Seating) (client : ClientId) : Option Room :=
  (seating.get? client).bind Seat.pending

def identityOf (seating : Seating) (client : ClientId) : Option Identity :=
  (seating.get? client).bind Seat.identity

def senderContext (seating : Seating) (client : ClientId) (space : Space) :
    Option (Identity × Room) := do
  let seat ← seating.get? client
  let identity ← seat.identity
  let resource ← seat.current space
  return (identity, ⟨space, resource⟩)

end Seating

/-! ## The seat of a connection -/

def currentIn (rooms : List Room) (space : Space) : Option String :=
  (rooms.find? fun room => room.space == space).map Room.resource

section CurrentIn

variable {rooms : List Room} {space : Space} {room : Room}

def OnePerSpace (rooms : List Room) : Prop :=
  ∀ room ∈ rooms, ∀ other ∈ rooms, room.space = other.space → room = other

theorem currentIn_eq_some_iff (one : OnePerSpace rooms) {resource : String} :
    currentIn rooms space = some resource ↔ ⟨space, resource⟩ ∈ rooms := by
  unfold currentIn
  rw [Option.map_eq_some_iff]
  constructor
  · intro present
    rcases present with ⟨room, found, rfl⟩
    have same : room.space = space := by simpa using List.find?_some found
    subst same
    exact List.mem_of_find?_eq_some found
  · intro held
    cases found : rooms.find? fun room => room.space == space with
    | none =>
        have absent := List.find?_eq_none.mp found _ held
        simp at absent
    | some room =>
        have same : room.space = space := by simpa using List.find?_some found
        have equal := one room (List.mem_of_find?_eq_some found) _ held same
        exact ⟨room, rfl, by rw [equal]⟩

theorem OnePerSpace.filter (one : OnePerSpace rooms) (kept : Room → Bool) :
    OnePerSpace (rooms.filter kept) :=
  fun room held other also =>
    one room (List.mem_of_mem_filter held) other (List.mem_of_mem_filter also)

theorem currentIn_join (rooms : List Room) (room : Room) :
    currentIn (rooms.filter (fun held => held.space ≠ room.space) ++ [room]) =
      fun other => if other = room.space then some room.resource else currentIn rooms other := by
  funext other
  unfold currentIn
  rw [List.find?_append]
  by_cases same : other = room.space
  · subst same
    have left : (rooms.filter fun held => held.space ≠ room.space).find?
        (fun held => held.space == room.space) = none := by
      rw [List.find?_eq_none]
      intro held member
      simpa using (List.mem_filter.mp member).2
    rw [left]
    simp
  · have kept : (rooms.filter fun held => held.space ≠ room.space).find?
        (fun held => held.space == other) = rooms.find? fun held => held.space == other := by
      rw [List.find?_filter]
      congr
      funext held
      by_cases equal : held.space = other <;> simp [equal, same]
    rw [kept]
    simp [same, Ne.symm same]

theorem currentIn_leave (one : OnePerSpace rooms) (room : Room) :
    currentIn (rooms.filter (· ≠ room)) =
      fun other => if other = room.space ∧ currentIn rooms room.space = some room.resource
        then none else currentIn rooms other := by
  funext other
  apply Option.ext
  intro resource
  rw [currentIn_eq_some_iff (one.filter _), List.mem_filter, ← currentIn_eq_some_iff one]
  split
  · rename_i held
    rcases held with ⟨rfl, held⟩
    constructor
    · intro kept
      rcases kept with ⟨present, different⟩
      rw [held, Option.some.injEq] at present
      subst present
      simp at different
    · intro absent
      cases absent
  · rename_i unheld
    refine and_iff_left_of_imp fun present => ?_
    have different : (⟨other, resource⟩ : Room) ≠ room := by
      intro equal
      subst equal
      exact unheld ⟨rfl, present⟩
    simpa using different

end CurrentIn

namespace Registry

def seatOf (registry : Registry) (client : ClientId) : Option Seat :=
  (registry.profileOf client).map fun profile =>
    ⟨profile.1, profile.2.identity?, profile.2.parked?, currentIn (registry.roomsOf client)⟩

def Reseated (registry : Registry) (client : ClientId) (change : Seat → Seat)
    (after : Registry) : Prop :=
  ∀ other, after.seatOf other =
    if client = other then (registry.seatOf other).map change else registry.seatOf other

variable {registry next after : Registry} {client : ClientId} {space : Space}

theorem seatOf_of_profileOf {standing : Standing}
    (profile : registry.profileOf client = some (space, standing)) :
    registry.seatOf client = some
      ⟨space, standing.identity?, standing.parked?, currentIn (registry.roomsOf client)⟩ := by
  rw [seatOf, profile]
  rfl

theorem seatOf_of_unknown (unknown : registry.profileOf client = none) :
    registry.seatOf client = none := by
  rw [seatOf, unknown]
  rfl

theorem WellFormed.onePerSpace (wellFormed : registry.WellFormed) (client : ClientId) :
    OnePerSpace (registry.roomsOf client) :=
  wellFormed.one_room client

/-! ## Single changes -/

namespace Reseated

theorem trans {first second : Seat → Seat} (reseated : registry.Reseated client first next)
    (again : next.Reseated client second after) :
    registry.Reseated client (second ∘ first) after := by
  intro other
  rw [again other, reseated other]
  split
  · rw [Option.map_map]
  · rfl

theorem of_unknown (unknown : registry.profileOf client = none) (change : Seat → Seat) :
    registry.Reseated client change registry := by
  intro other
  split
  · rename_i same
    subst same
    rw [seatOf_of_unknown unknown]
    rfl
  · rfl

theorem of_fixed {change : Seat → Seat} {seat : Seat}
    (present : registry.seatOf client = some seat) (fixed : change seat = seat) :
    registry.Reseated client change registry := by
  intro other
  split
  · rename_i same
    subst same
    rw [present, Option.map_some, fixed]
  · rfl

/-- Only what happens to the seat that is there counts. -/
theorem congr {change same : Seat → Seat} (reseated : registry.Reseated client change after)
    {seat : Seat} (present : registry.seatOf client = some seat)
    (equal : change seat = same seat) : registry.Reseated client same after := by
  intro other
  rw [reseated other]
  split
  · rename_i own
    subst own
    rw [present, Option.map_some, Option.map_some, equal]
  · rfl

end Reseated

theorem reseated_withStanding (registry : Registry) (client : ClientId) (standing : Standing) :
    registry.Reseated client
      (fun seat => { seat with identity := standing.identity?, pending := standing.parked? })
      (registry.withStanding client standing) := by
  intro other
  unfold seatOf
  rw [profileOf_withStanding, roomsOf_withStanding]
  split
  · rw [Option.map_map, Option.map_map]
    rfl
  · rfl

theorem reseated_identify (registry : Registry) (client : ClientId) (space : Space)
    (identity : Identity) :
    registry.Reseated client
      (fun seat => { seat with identity := some identity, pending := none })
      (registry.identify client space identity) := by
  intro other
  unfold seatOf
  rw [profileOf_identify, roomsOf_identify]
  split
  · rw [Option.map_map, Option.map_map]
    rfl
  · rfl

theorem reseated_removeMember (wellFormed : registry.WellFormed) (client : ClientId)
    (room : Room) :
    registry.Reseated client (fun seat => seat.vacate room)
      (registry.removeMember client room) := by
  intro other
  unfold seatOf
  rw [profileOf_removeMember, roomsOf_removeMember]
  split
  · rw [currentIn_leave (wellFormed.onePerSpace other), Option.map_map]
    congr 1
    funext profile
    simp only [Function.comp, Seat.vacate]
    by_cases held : currentIn (registry.roomsOf other) room.space = some room.resource <;>
      simp [held, Seat.sit]
  · rfl

theorem reseated_joinExclusive (room : Room) {identity : Identity}
    (known : registry.profileOf client = some (space, .known identity)) :
    registry.Reseated client (fun seat => seat.join room)
      (registry.joinExclusive client room).1 := by
  intro other
  unfold seatOf
  rw [profileOf_joinExclusive, roomsOf_joinExclusive room known]
  split
  · rw [currentIn_join, Option.map_map]
    rfl
  · rfl

/-! ## Operations -/

theorem reseated_requestJoin (registry : Registry) (client : ClientId) (room : Room) :
    registry.Reseated client (fun seat => seat.request room)
      (registry.requestJoin client room).registry := by
  cases profile : registry.profileOf client with
  | none =>
      rw [requestJoin_of_unknown room profile]
      exact .of_unknown profile _
  | some pair =>
      obtain ⟨space, standing⟩ := pair
      have seat := seatOf_of_profileOf profile
      cases standing with
      | waiting parked =>
          rw [requestJoin_of_waiting room profile]
          exact (registry.reseated_withStanding client _).congr seat rfl
      | known identity =>
          rw [requestJoin_of_known room profile]
          exact (reseated_joinExclusive room profile).congr seat rfl

theorem reseated_authenticate (registry : Registry) (client : ClientId) (identity : Identity) :
    registry.Reseated client (fun seat => seat.authenticate identity)
      (registry.authenticate client identity).registry := by
  cases profile : registry.profileOf client with
  | none =>
      rw [authenticate_of_unknown identity profile]
      exact .of_unknown profile _
  | some pair =>
      obtain ⟨space, standing⟩ := pair
      have seat := seatOf_of_profileOf profile
      cases standing with
      | known present =>
          rw [authenticate_of_known identity profile]
          exact .of_fixed seat rfl
      | waiting parked =>
          have identified := registry.reseated_identify client space identity
          cases parked with
          | none =>
              rw [authenticate_of_unparked identity profile]
              exact identified.congr seat rfl
          | some room =>
              have known : (registry.identify client space identity).profileOf client =
                  some (space, .known identity) := by
                simp [profile]
              rw [authenticate_of_parked identity profile]
              exact (identified.trans (reseated_joinExclusive room known)).congr seat rfl

theorem reseated_withdraw (registry : Registry) (client : ClientId) (room : Room) :
    registry.Reseated client (fun seat => seat.withdraw room)
      (registry.withdraw client room) := by
  cases profile : registry.profileOf client with
  | none =>
      have unparked : registry.parkedRoom client = none := by
        rw [parkedRoom_eq, profile]
        rfl
      unfold withdraw
      rw [unparked]
      exact .of_unknown profile _
  | some pair =>
      obtain ⟨space, standing⟩ := pair
      have seat := seatOf_of_profileOf profile
      have parked : registry.parkedRoom client = standing.parked? := by
        rw [parkedRoom_eq, profile]
        rfl
      unfold withdraw
      rw [parked]
      cases standing with
      | known identity => exact .of_fixed seat rfl
      | waiting request =>
          split
          · rename_i asked
            change request = some room at asked
            subst asked
            apply (registry.reseated_withStanding client _).congr seat
            simp [Seat.withdraw, Standing.identity?, Standing.parked?]
          · rename_i unasked
            apply Reseated.of_fixed seat
            simp [Seat.withdraw, unasked]

theorem reseated_leave (wellFormed : registry.WellFormed) (client : ClientId) (room : Room) :
    registry.Reseated client (fun seat => seat.leave room)
      (registry.leave client room).registry := by
  have left : (registry.leave client room).registry =
      (registry.withdraw client room).removeMember client room :=
    leaveRoom_registry (registry.withdraw client room) client room
  have withdrawn := wellFormed.shifts (withdraw_shifts registry client room)
  rw [left]
  exact (registry.reseated_withdraw client room).trans (reseated_removeMember withdrawn client room)

theorem seatOf_disconnect (registry : Registry) (client other : ClientId) :
    (registry.disconnect client).registry.seatOf other =
      if client = other then none else registry.seatOf other := by
  cases profile : registry.profileOf client with
  | none =>
      rw [disconnect_of_unknown profile]
      split
      · rename_i same
        exact same ▸ seatOf_of_unknown profile
      · rfl
  | some pair =>
      obtain ⟨space, standing⟩ := pair
      rw [disconnect_of_profileOf profile]
      unfold seatOf
      rw [profileOf_forget, profileOf_leaveRooms, roomsOf_forget, roomsOf_leaveRooms]
      by_cases same : client = other
      · simp only [same, if_true, Option.map_none]
      · simp only [same, if_false]

/-! ## What a registry shows of its seating -/

def Seated (registry : Registry) (seating : Seating) : Prop :=
  ∀ client, seating.get? client = registry.seatOf client

variable {seating : Seating}

namespace Seated

theorem modify (seated : registry.Seated seating) {change : Seat → Seat}
    (reseated : registry.Reseated client change after) :
    after.Seated (seating.modify client change) := by
  intro other
  rw [Table.get?_modify, reseated other, seated other]

theorem connect (seated : registry.Seated seating) (client : ClientId) (space : Space) :
    (registry.connect client space).Seated (seating.connect client space) := by
  intro other
  unfold seatOf Seating.connect
  rw [profileOf_connect, roomsOf_connect, Table.get?_set]
  by_cases same : client = other
  · simp only [same, if_true]
    rfl
  · simp only [same, if_false]
    exact seated other

theorem disconnect (seated : registry.Seated seating) (client : ClientId) :
    (registry.disconnect client).registry.Seated (seating.disconnect client) := by
  intro other
  rw [Seating.disconnect, Table.get?_erase, seatOf_disconnect, seated other]

theorem joinAnswer_eq (seated : registry.Seated seating) (client : ClientId) (room : Room) :
    (registry.requestJoin client room).answer = (seating.requestJoin client room).1 := by
  rw [requestJoin_answer, Seating.requestJoin, seated client, seatOf]
  cases registry.profileOf client with
  | none => rfl
  | some pair =>
      obtain ⟨space, standing⟩ := pair
      cases standing <;> rfl

theorem authentication_eq (seated : registry.Seated seating) (client : ClientId)
    (identity : Identity) :
    (registry.authenticate client identity).answer =
      (seating.authenticate client identity).1 := by
  rw [authenticate_answer, Seating.authenticate, seated client, seatOf, Option.any_map]

end Seated

structure Shows (registry : Registry) (seating : Seating) : Prop where
  rooms : ∀ client room, room ∈ registry.roomsOf client ↔ seating.IsIn client room
  members : ∀ room client, client ∈ registry.membersOf room ↔ seating.IsIn client room
  active : ∀ room, room ∈ registry.activeRooms ↔ ∃ client, seating.IsIn client room
  parked : ∀ client, registry.parkedRoom client = seating.parkedRoom client
  authenticated : ∀ client, registry.isAuthenticated client = (seating.identityOf client).isSome
  count : registry.connectionCount = seating.size
  sender : ∀ client space,
    registry.senderContext client space = seating.senderContext client space
  join : ∀ client room,
    (registry.requestJoin client room).answer = (seating.requestJoin client room).1
  authentication : ∀ client identity,
    (registry.authenticate client identity).answer = (seating.authenticate client identity).1

namespace Seated

theorem isIn_iff (seated : registry.Seated seating) (wellFormed : registry.WellFormed)
    {room : Room} : seating.IsIn client room ↔ room ∈ registry.roomsOf client := by
  unfold Seating.IsIn
  rw [← currentIn_eq_some_iff (wellFormed.onePerSpace client)]
  cases profile : registry.profileOf client with
  | none =>
      simp [seated client, seatOf_of_unknown profile, currentIn,
        registry.roomsOf_eq_nil_of_profileOf client profile]
  | some pair => simp [seated client, seatOf_of_profileOf profile]

theorem mem_activeRooms_iff (wellFormed : registry.WellFormed) {room : Room} :
    room ∈ registry.activeRooms ↔ ∃ client, client ∈ registry.membersOf room := by
  unfold activeRooms membersOf Table.getD
  rw [Table.mem_keys]
  cases found : registry.rooms.get? room with
  | none => simp
  | some members =>
      have occupied : members ≠ [] := fun emptied =>
        wellFormed.occupied_rooms room (emptied ▸ found)
      simpa using List.exists_mem_of_ne_nil members occupied

theorem connectionCount_eq (seated : registry.Seated seating) :
    registry.connectionCount = seating.size := by
  have same : ∀ client, client ∈ registry.connections.keys ↔ client ∈ seating.keys := by
    intro client
    rw [Table.mem_keys, Table.mem_keys, seated client, seatOf, profileOf]
    cases registry.connections.get? client <;> simp
  have permuted : registry.connections.keys.Perm seating.keys :=
    (List.perm_ext_iff_of_nodup registry.connections.nodup_keys seating.nodup_keys).mpr same
  unfold connectionCount
  rw [Table.size_eq_length_keys, Table.size_eq_length_keys, permuted.length_eq]

theorem senderContext_eq (seated : registry.Seated seating) (client : ClientId) (space : Space) :
    registry.senderContext client space = seating.senderContext client space := by
  unfold senderContext Seating.senderContext
  cases profile : registry.profileOf client with
  | none =>
      simp only [seated client, seatOf_of_unknown profile]
      simp only [profileOf, Option.map_eq_none_iff] at profile
      simp [profile]
  | some pair =>
      simp only [seated client, seatOf_of_profileOf profile,
        registry.connection_of_profileOf client profile, Option.bind_eq_bind, Option.bind_some]
      cases pair.2.identity? with
      | none => rfl
      | some identity =>
          simp only [Option.bind_some, currentIn]
          cases found : (registry.roomsOf client).find? fun room => room.space == space with
          | none => simp
          | some room =>
              have same : room.space = space := by simpa using List.find?_some found
              simp [← same]

theorem shows (seated : registry.Seated seating) (wellFormed : registry.WellFormed) :
    registry.Shows seating where
  rooms client room := (seated.isIn_iff wellFormed).symm
  members room client := by
    rw [seated.isIn_iff wellFormed]
    exact (wellFormed.agree client room).symm
  active room := by
    rw [mem_activeRooms_iff wellFormed]
    refine exists_congr fun client => ?_
    rw [seated.isIn_iff wellFormed]
    exact (wellFormed.agree client room).symm
  parked client := by
    rw [parkedRoom_eq, Seating.parkedRoom, seated client, seatOf]
    cases registry.profileOf client <;> rfl
  authenticated client := by
    rw [isAuthenticated, identityOf_eq, Seating.identityOf, seated client, seatOf]
    cases registry.profileOf client <;> rfl
  count := seated.connectionCount_eq
  sender := seated.senderContext_eq
  join := seated.joinAnswer_eq
  authentication := seated.authentication_eq

end Seated

end Registry

end SharedEditing
