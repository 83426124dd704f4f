import SharedEditing.Proofs.Registry.Acts

/-! # Operations that do not meet

Two connections ask for something, and no room has to do with both. Then neither sees what the
other does: in either order each makes the movements that it makes alone, and the registry
holds the same in the end. -/

namespace SharedEditing.Registry

/-- Two registries with the same connections, the same members of rooms in the same order, and
the same channels. There is no order among the listeners of a channel. -/
structure Same (left right : Registry) : Prop where
  connections : ∀ client, left.connections.get? client = right.connections.get? client
  rooms : ∀ room, left.rooms.get? room = right.rooms.get? room
  channels : ∀ email,
    Option.Rel List.Perm (left.channels.get? email) (right.channels.get? email)

variable {registry left right : Registry} {client other : ClientId} {room : Room}
  {first second : Operation}

/-! ## What registries hold -/

theorem WellFormed.listeners_perm (leftWellFormed : left.WellFormed)
    (rightWellFormed : right.WellFormed)
    (profiles : ∀ client, left.profileOf client = right.profileOf client) (email : String) :
    (left.listeners email).Perm (right.listeners email) := by
  apply (List.perm_ext_iff_of_nodup (leftWellFormed.nodup_listeners email)
    (rightWellFormed.nodup_listeners email)).mpr
  intro client
  rw [leftWellFormed.listening, rightWellFormed.listening, profiles client]

theorem Same.of_alike (leftWellFormed : left.WellFormed) (rightWellFormed : right.WellFormed)
    (profile : ∀ client, left.profileOf client = right.profileOf client)
    (rooms : ∀ client, left.roomsOf client = right.roomsOf client)
    (members : ∀ room, left.membersOf room = right.membersOf room) : left.Same right where
  connections client := connection_congr (profile client) (rooms client)
  rooms room := by
    have same := members room
    unfold membersOf at same
    rw [Table.get?_of_occupied _ _ (leftWellFormed.occupied_rooms room),
      Table.get?_of_occupied _ _ (rightWellFormed.occupied_rooms room), same]
  channels email := by
    have same := leftWellFormed.listeners_perm rightWellFormed profile email
    unfold listeners at same
    rw [Table.get?_of_occupied _ _ (leftWellFormed.occupied_channels email),
      Table.get?_of_occupied _ _ (rightWellFormed.occupied_channels email)]
    by_cases deserted : right.channels.getD email [] = []
    · rw [deserted] at same
      rw [if_pos same.eq_nil, if_pos deserted]
      exact .none
    · rw [if_neg fun emptied => deserted (emptied ▸ same).nil_eq.symm, if_neg deserted]
      exact .some same

/-! ## One operation beside another -/

/-- Two operations of different connections that no room has to do with both. -/
structure Independent (registry : Registry) (client : ClientId) (first : Operation)
    (other : ClientId) (second : Operation) : Prop where
  different : client ≠ other
  apart : ∀ room, registry.Concerns client first room → ¬registry.Concerns other second room

theorem Independent.symm (independent : registry.Independent client first other second) :
    registry.Independent other second client first where
  different := independent.different.symm
  apart room concerned others := independent.apart room others concerned

theorem Concerns.congr (profile : left.profileOf client = right.profileOf client)
    (rooms : left.roomsOf client = right.roomsOf client)
    (concerns : left.Concerns client first room) : right.Concerns client first room := by
  cases concerns with
  | held held => exact .held (rooms ▸ held)
  | parked parked =>
      refine .parked ?_
      rwa [parkedRoom_eq, profile, ← parkedRoom_eq] at parked
  | requested requested => exact .requested requested

theorem AlikeOn.mono {clients : ClientId → Prop} {places fewer : Room → Prop}
    (alike : AlikeOn clients places left right) (placed : ∀ room, fewer room → places room) :
    AlikeOn clients fewer left right :=
  ⟨alike.profile, alike.rooms, fun room among => alike.members room (placed room among)⟩

namespace WellFormed

variable (wellFormed : registry.WellFormed)

include wellFormed

theorem alikeOn_operate (client : ClientId) (operation : Operation) :
    AlikeOn (· ≠ client) (fun room => ¬registry.Concerns client operation room)
      (registry.operate client operation).1 registry := by
  rw [wellFormed.operate_eq]
  exact alikeOn_follow registry (fun own => own rfl) fun only member room touched unconcerned =>
    unconcerned (concerns_of_act member touched)

theorem told_of_operate {movement : Movement}
    (moved : movement ∈ (registry.operate client first).2) :
    registry.Concerns client first movement.room ∧ ∀ member ∈ movement.members,
      member.client = client ∨ member.client ∈ registry.membersOf movement.room := by
  rw [wellFormed.operate_eq] at moved
  rcases of_moved moved with ⟨⟨only, member, touched⟩, told⟩
  exact ⟨concerns_of_act member touched, told⟩

/-- An operation after another one makes the movements that it makes alone, and leads to what
the two lead to in the other order, but perhaps for the other's connection and rooms. -/
theorem operate_after (independent : registry.Independent client first other second) :
    AlikeOn (· ≠ other) (fun room => ¬registry.Concerns other second room)
        ((registry.operate other second).1.operate client first).1
        ((registry.operate client first).1.operate other second).1 ∧
      ((registry.operate other second).1.operate client first).2 =
        (registry.operate client first).2 := by
  have unseen := wellFormed.alikeOn_operate other second
  have seen := wellFormed.alikeOn_operate client first
  have encloses : Encloses (· ≠ other) (fun room => ¬registry.Concerns other second room)
      registry := by
    rintro room apart _ member rfl
    exact apart (.held ((wellFormed.agree _ room).mpr member))
  -- The acts are the same after the other's operation, and come to the same.
  have followed := unseen.follow encloses independent.different
    (fun only member room touched => independent.apart room (concerns_of_act member touched))
  have before := wellFormed.operate_eq client first
  have after := (wellFormed.operate other second).operate_eq client first
  rw [unseen.profile client independent.different, unseen.rooms client independent.different]
    at after
  rw [← before, ← after] at followed
  -- The other's operation has to do with the same rooms after the first one.
  have own := seen.profile other independent.different.symm
  have held := seen.rooms other independent.different.symm
  have later := ((wellFormed.operate client first).alikeOn_operate other second).mono
    fun room (unconcerned : ¬registry.Concerns other second room) concerned =>
      unconcerned (concerned.congr own held)
  exact ⟨followed.1.trans later.symm, followed.2⟩

theorem operate_comm (independent : registry.Independent client first other second) :
    ((registry.operate client first).1.operate other second).1.Same
        ((registry.operate other second).1.operate client first).1 ∧
      ((registry.operate client first).1.operate other second).2 =
        (registry.operate other second).2 ∧
      ((registry.operate other second).1.operate client first).2 =
        (registry.operate client first).2 := by
  rcases wellFormed.operate_after independent with ⟨alike, moves⟩
  rcases wellFormed.operate_after independent.symm with ⟨likewise, others⟩
  refine ⟨.of_alike ((wellFormed.operate client first).operate other second)
    ((wellFormed.operate other second).operate client first) (fun someone => ?profile)
    (fun someone => ?rooms) (fun room => ?members), others, moves⟩
  case profile =>
    by_cases own : someone = client
    · exact (alike.profile someone (own ▸ independent.different)).symm
    · exact likewise.profile someone own
  case rooms =>
    by_cases own : someone = client
    · exact (alike.rooms someone (own ▸ independent.different)).symm
    · exact likewise.rooms someone own
  case members =>
    by_cases concerned : registry.Concerns client first room
    · exact (alike.members room (independent.apart room concerned)).symm
    · exact likewise.members room concerned

end WellFormed

end SharedEditing.Registry
