import Mathlib.Data.List.Nodup
import SharedEditing.Registry.Membership

/-! # What each change shows

A registry is looked at in four ways: the profile of a connection, its rooms, the
members of a room and the listeners of an email address. For each change of the
registry there is one equation per view, so that later proofs never open a table. -/

namespace SharedEditing

/-! ## Tables of lists

The members of rooms and the listeners of channels are kept alike: a key without a
value stands for the empty list, and a list that becomes empty is forgotten. -/

namespace Table

variable {κ : Type u} {α : Type v} [DecidableEq κ] (table : Table κ (List α)) (key other : κ)

theorem getD_set (values : List α) :
    (table.set key values).getD other [] = if key = other then values else table.getD other [] := by
  simp only [getD, get?_set]
  split <;> rfl

theorem getD_setOrErase (values : List α) :
    (if values.isEmpty then table.erase key else table.set key values).getD other [] =
      if key = other then values else table.getD other [] := by
  split
  · rename_i emptied
    simp only [List.isEmpty_iff] at emptied
    simp only [getD, get?_erase, emptied]
    split <;> rfl
  · exact table.getD_set key other values

theorem get?_of_occupied (occupied : table.get? key ≠ some []) :
    table.get? key = if table.getD key [] = [] then none else some (table.getD key []) := by
  unfold getD
  cases found : table.get? key with
  | none => rfl
  | some values => exact (if_neg fun emptied => occupied (found.trans (congrArg some emptied))).symm

theorem occupied_set {values : List α} (filled : values ≠ [])
    (occupied : ∀ key, table.get? key ≠ some []) :
    (table.set key values).get? other ≠ some [] := by
  rw [get?_set]
  split
  · simpa using filled
  · exact occupied other

theorem occupied_setOrErase (values : List α) (occupied : ∀ key, table.get? key ≠ some []) :
    (if values.isEmpty then table.erase key else table.set key values).get? other ≠ some [] := by
  split
  · rw [get?_erase]
    split
    · simp
    · exact occupied other
  · rename_i remaining
    exact table.occupied_set key other (by simpa using remaining) occupied

end Table

theorem filter_ne_of_not_mem {α : Type u} [DecidableEq α] {value : α} {values : List α}
    (absent : value ∉ values) : values.filter (· ≠ value) = values := by
  apply List.filter_eq_self.mpr
  intro other member
  have different : other ≠ value := fun equal => absent (equal ▸ member)
  simpa using different

namespace Registry

/-- What a connection is apart from its rooms: the family that it was opened for,
and its standing. -/
def profileOf (registry : Registry) (client : ClientId) : Option (Space × Standing) :=
  (registry.connections.get? client).map fun connection => (connection.space, connection.standing)

variable (registry : Registry) (client other : ClientId)

/-! ## Views of a profile -/

theorem identityOf_eq : registry.identityOf client =
    (registry.profileOf client).bind fun profile => profile.2.identity? := by
  simp only [identityOf, profileOf]
  cases registry.connections.get? client <;> rfl

theorem parkedRoom_eq : registry.parkedRoom client =
    (registry.profileOf client).bind fun profile => profile.2.parked? := by
  simp only [parkedRoom, profileOf]
  cases registry.connections.get? client <;> rfl

theorem isLive_iff : registry.isLive client = true ↔ registry.profileOf client ≠ none := by
  simp only [isLive, Table.has, profileOf]
  cases registry.connections.get? client <;> simp

theorem roomsOf_eq_nil_of_profileOf (unknown : registry.profileOf client = none) :
    registry.roomsOf client = [] := by
  simp only [profileOf, Option.map_eq_none_iff] at unknown
  simp only [roomsOf, unknown]

theorem connection_of_profileOf {space : Space} {standing : Standing}
    (profile : registry.profileOf client = some (space, standing)) :
    registry.connections.get? client = some ⟨space, standing, registry.roomsOf client⟩ := by
  simp only [profileOf, Option.map_eq_some_iff, Prod.mk.injEq] at profile
  rcases profile with ⟨connection, found, rfl, rfl⟩
  simp only [roomsOf, found]

theorem profileOf_of_connection {connection : Connection}
    (found : registry.connections.get? client = some connection) :
    registry.profileOf client = some (connection.space, connection.standing) := by
  simp [profileOf, found]

theorem roomsOf_of_connection {connection : Connection}
    (found : registry.connections.get? client = some connection) :
    registry.roomsOf client = connection.rooms := by
  simp [roomsOf, found]

theorem connection_congr {left right : Registry} {client : ClientId}
    (profile : left.profileOf client = right.profileOf client)
    (rooms : left.roomsOf client = right.roomsOf client) :
    left.connections.get? client = right.connections.get? client := by
  cases found : right.profileOf client with
  | none =>
      have unknown := profile.trans found
      rw [profileOf, Option.map_eq_none_iff] at found unknown
      rw [found, unknown]
  | some pair =>
      rw [right.connection_of_profileOf client found,
        left.connection_of_profileOf client (profile.trans found), rooms]

/-- The members with what is known of them depend on nothing but the members and
their identities. -/
theorem members_congr {left right : Registry} {room : Room}
    (members : left.membersOf room = right.membersOf room)
    (identities : ∀ client ∈ right.membersOf room, left.profileOf client = right.profileOf client) :
    left.members room = right.members room := by
  have described (registry : Registry) (client : ClientId) :
      (registry.connections.get? client).map
          (fun connection => (⟨client, connection.standing.identity?⟩ : Member)) =
        (registry.profileOf client).map fun profile => ⟨client, profile.2.identity?⟩ := by
    simp only [profileOf, Option.map_map]
    rfl
  unfold Registry.members
  rw [members]
  apply List.filterMap_congr
  intro client member
  rw [described, described, identities client member]

theorem mem_membersOf_of_mem_members {registry : Registry} {room : Room} {member : Member}
    (present : member ∈ registry.members room) : member.client ∈ registry.membersOf room := by
  rw [members] at present
  rcases List.mem_filterMap.mp present with ⟨client, listed, described⟩
  rcases Option.map_eq_some_iff.mp described with ⟨connection, _, rfl⟩
  exact listed

/-! ## Entering and leaving -/

section Membership

variable (room place : Room) (email : String)

@[simp] theorem profileOf_addMember :
    (registry.addMember client room).profileOf other = registry.profileOf other := by
  simp only [profileOf, addMember, Table.get?_modify]
  cases registry.connections.get? other <;> by_cases same : client = other <;>
    simp [same, apply_ite]

@[simp] theorem profileOf_removeMember :
    (registry.removeMember client room).profileOf other = registry.profileOf other := by
  simp only [profileOf, removeMember, Table.get?_modify]
  cases registry.connections.get? other <;> by_cases same : client = other <;> simp [same]

theorem roomsOf_addMember {profile : Space × Standing}
    (live : registry.profileOf client = some profile) :
    (registry.addMember client room).roomsOf other =
      if client = other ∧ room ∉ registry.roomsOf other then registry.roomsOf other ++ [room]
      else registry.roomsOf other := by
  have found := registry.connection_of_profileOf client live
  by_cases same : client = other
  · subst same
    have after : (registry.addMember client room).connections.get? client =
        some (if room ∈ registry.roomsOf client then ⟨profile.1, profile.2, registry.roomsOf client⟩
          else ⟨profile.1, profile.2, registry.roomsOf client ++ [room]⟩) := by
      simp only [addMember, Table.get?_modify, found, if_true, Option.map_some]
    rw [roomsOf_of_connection _ _ after]
    by_cases present : room ∈ registry.roomsOf client <;> simp [present]
  · simp [roomsOf, addMember, Table.get?_modify, same]

theorem roomsOf_addMember_of_unknown (unknown : registry.profileOf client = none) :
    (registry.addMember client room).roomsOf other = registry.roomsOf other := by
  simp only [profileOf, Option.map_eq_none_iff] at unknown
  have fixed : ∀ change, registry.connections.modify client change = registry.connections :=
    fun change => Table.modify_of_get?_eq_none unknown change
  simp only [roomsOf, addMember, fixed]

theorem roomsOf_addMember_of_ne (different : client ≠ other) :
    (registry.addMember client room).roomsOf other = registry.roomsOf other := by
  simp only [roomsOf, addMember, Table.get?_modify, if_neg different]

@[simp] theorem roomsOf_removeMember :
    (registry.removeMember client room).roomsOf other =
      if client = other then (registry.roomsOf other).filter (· ≠ room)
      else registry.roomsOf other := by
  simp only [roomsOf, removeMember, Table.get?_modify]
  cases registry.connections.get? other <;> by_cases same : client = other <;> simp [same]

@[simp] theorem membersOf_addMember :
    (registry.addMember client room).membersOf place =
      if room = place ∧ client ∉ registry.membersOf place then registry.membersOf place ++ [client]
      else registry.membersOf place := by
  unfold membersOf addMember
  rw [Table.getD_set]
  by_cases same : room = place
  · subst same
    by_cases present : client ∈ registry.rooms.getD room [] <;> simp [membersOf, present]
  · simp [same]

@[simp] theorem membersOf_removeMember :
    (registry.removeMember client room).membersOf place =
      if room = place then (registry.membersOf place).filter (· ≠ client)
      else registry.membersOf place := by
  unfold membersOf removeMember
  rw [Table.getD_setOrErase]
  by_cases same : room = place <;> simp [same, membersOf]

@[simp] theorem listeners_addMember :
    (registry.addMember client room).listeners email = registry.listeners email := rfl

@[simp] theorem listeners_removeMember :
    (registry.removeMember client room).listeners email = registry.listeners email := rfl

theorem occupied_addMember (occupied : ∀ place, registry.rooms.get? place ≠ some []) :
    (registry.addMember client room).rooms.get? place ≠ some [] := by
  apply Table.occupied_set _ _ _ _ occupied
  split
  · rename_i member
    exact List.ne_nil_of_mem member
  · simp

theorem occupied_removeMember (occupied : ∀ place, registry.rooms.get? place ≠ some []) :
    (registry.removeMember client room).rooms.get? place ≠ some [] := by
  exact Table.occupied_setOrErase _ _ _ _ occupied

end Membership

/-! ## Standing and channels -/

section Standing

variable (standing : Standing) (place : Room) (email address : String)

@[simp] theorem profileOf_withStanding :
    (registry.withStanding client standing).profileOf other =
      if client = other then (registry.profileOf other).map fun profile => (profile.1, standing)
      else registry.profileOf other := by
  simp only [profileOf, withStanding, Table.get?_modify]
  cases registry.connections.get? other <;> by_cases same : client = other <;> simp [same]

@[simp] theorem roomsOf_withStanding :
    (registry.withStanding client standing).roomsOf other = registry.roomsOf other := by
  simp only [roomsOf, withStanding, Table.get?_modify]
  cases registry.connections.get? other <;> by_cases same : client = other <;> simp [same]

@[simp] theorem membersOf_withStanding :
    (registry.withStanding client standing).membersOf place = registry.membersOf place := rfl

@[simp] theorem listeners_withStanding :
    (registry.withStanding client standing).listeners email = registry.listeners email := rfl

@[simp] theorem profileOf_subscribe :
    (registry.subscribe client email).profileOf other = registry.profileOf other := rfl

@[simp] theorem roomsOf_subscribe :
    (registry.subscribe client email).roomsOf other = registry.roomsOf other := rfl

@[simp] theorem membersOf_subscribe :
    (registry.subscribe client email).membersOf place = registry.membersOf place := rfl

@[simp] theorem listeners_subscribe :
    (registry.subscribe client email).listeners address =
      if email = address ∧ client ∉ registry.listeners address
      then registry.listeners address ++ [client]
      else registry.listeners address := by
  unfold listeners subscribe
  rw [Table.getD_set]
  by_cases same : email = address
  · subst same
    by_cases present : client ∈ registry.channels.getD email [] <;> simp [listeners, present]
  · simp [same]

@[simp] theorem profileOf_unsubscribe :
    (registry.unsubscribe client email).profileOf other = registry.profileOf other := rfl

@[simp] theorem roomsOf_unsubscribe :
    (registry.unsubscribe client email).roomsOf other = registry.roomsOf other := rfl

@[simp] theorem membersOf_unsubscribe :
    (registry.unsubscribe client email).membersOf place = registry.membersOf place := rfl

@[simp] theorem listeners_unsubscribe :
    (registry.unsubscribe client email).listeners address =
      if email = address then (registry.listeners address).filter (· ≠ client)
      else registry.listeners address := by
  unfold listeners unsubscribe
  rw [Table.getD_setOrErase]
  by_cases same : email = address <;> simp [same, listeners]

theorem occupied_subscribe (occupied : ∀ address, registry.channels.get? address ≠ some []) :
    (registry.subscribe client email).channels.get? address ≠ some [] := by
  apply Table.occupied_set _ _ _ _ occupied
  split
  · rename_i member
    exact List.ne_nil_of_mem member
  · simp

theorem occupied_unsubscribe (occupied : ∀ address, registry.channels.get? address ≠ some []) :
    (registry.unsubscribe client email).channels.get? address ≠ some [] := by
  exact Table.occupied_setOrErase _ _ _ _ occupied

end Standing

/-! ## Opening and forgetting -/

section Opening

variable (space : Space) (place : Room) (email : String)

@[simp] theorem profileOf_connect :
    (registry.connect client space).profileOf other =
      if client = other then some (space, .waiting none) else registry.profileOf other := by
  simp only [profileOf, connect, Table.get?_set]
  split <;> rfl

@[simp] theorem roomsOf_connect :
    (registry.connect client space).roomsOf other =
      if client = other then [] else registry.roomsOf other := by
  simp only [roomsOf, connect, Table.get?_set]
  by_cases same : client = other <;> simp [same]

@[simp] theorem membersOf_connect :
    (registry.connect client space).membersOf place = registry.membersOf place := rfl

@[simp] theorem listeners_connect :
    (registry.connect client space).listeners email = registry.listeners email := rfl

def dropConnection (registry : Registry) (client : ClientId) : Registry :=
  { registry with connections := registry.connections.erase client }

@[simp] theorem profileOf_dropConnection :
    (registry.dropConnection client).profileOf other =
      if client = other then none else registry.profileOf other := by
  simp only [profileOf, dropConnection, Table.get?_erase]
  split <;> rfl

@[simp] theorem roomsOf_dropConnection :
    (registry.dropConnection client).roomsOf other =
      if client = other then [] else registry.roomsOf other := by
  simp only [roomsOf, dropConnection, Table.get?_erase]
  by_cases same : client = other <;> simp [same]

@[simp] theorem membersOf_dropConnection :
    (registry.dropConnection client).membersOf place = registry.membersOf place := rfl

@[simp] theorem listeners_dropConnection :
    (registry.dropConnection client).listeners email = registry.listeners email := rfl

end Opening

end Registry

end SharedEditing
