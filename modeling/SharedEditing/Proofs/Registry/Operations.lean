import SharedEditing.Proofs.Registry.Shift

/-! # Operations as shifts

What each operation comes to for a connection with a given profile, and that every
operation on a well-formed registry is a sequence of shifts with the operation's own
movements. -/

namespace SharedEditing.Registry

variable {registry : Registry} {client other : ClientId} {space : Space}

/-! ## Leaving and joining -/

theorem leaveRoom_registry (registry : Registry) (client : ClientId) (room : Room) :
    (registry.leaveRoom client room).1 = registry.removeMember client room := by
  unfold leaveRoom
  split <;> rfl

@[simp] theorem profileOf_leaveRooms (registry : Registry) (client other : ClientId)
    (rooms : List Room) :
    (registry.leaveRooms client rooms).1.profileOf other = registry.profileOf other := by
  induction rooms generalizing registry with
  | nil => rfl
  | cons room rest induction =>
      simp only [leaveRooms]
      rw [induction, leaveRoom_registry, profileOf_removeMember]

@[simp] theorem roomsOf_leaveRooms (registry : Registry) (client other : ClientId)
    (rooms : List Room) :
    (registry.leaveRooms client rooms).1.roomsOf other =
      if client = other then (registry.roomsOf other).filter (· ∉ rooms)
      else registry.roomsOf other := by
  induction rooms generalizing registry with
  | nil => simp [leaveRooms]
  | cons room rest induction =>
      simp only [leaveRooms]
      rw [induction, leaveRoom_registry, roomsOf_removeMember]
      split
      · rw [List.filter_filter]
        apply List.filter_congr
        intro place _
        by_cases same : place = room <;> simp [same]
      · rfl

theorem roomsOf_leaveRooms_self (registry : Registry) (client : ClientId) :
    (registry.leaveRooms client (registry.roomsOf client)).1.roomsOf client = [] := by
  simp

theorem joinExclusive_eq (registry : Registry) (client : ClientId) (room : Room) :
    registry.joinExclusive client room =
      (((registry.leaveRooms client
          ((registry.roomsOf client).filter fun other => other.space = room.space)).1.enterRoom
            client room).1,
        (registry.leaveRooms client
            ((registry.roomsOf client).filter fun other => other.space = room.space)).2 ++
          ((registry.leaveRooms client
            ((registry.roomsOf client).filter fun other => other.space = room.space)).1.enterRoom
              client room).2) := rfl

@[simp] theorem profileOf_joinExclusive (registry : Registry) (client other : ClientId)
    (room : Room) :
    (registry.joinExclusive client room).1.profileOf other = registry.profileOf other := by
  rw [joinExclusive_eq]
  simp only [enterRoom, profileOf_addMember, profileOf_leaveRooms]

theorem roomsOf_leaveFamily (registry : Registry) (client : ClientId) (room : Room) :
    (registry.leaveRooms client
        ((registry.roomsOf client).filter fun other => other.space = room.space)).1.roomsOf client =
      (registry.roomsOf client).filter fun other => other.space ≠ room.space := by
  rw [roomsOf_leaveRooms, if_pos rfl]
  apply List.filter_congr
  intro other held
  simp [held]

theorem roomsOf_joinExclusive (room : Room) {profile : Space × Standing}
    (live : registry.profileOf client = some profile) :
    (registry.joinExclusive client room).1.roomsOf other =
      if client = other
      then (registry.roomsOf other).filter (fun held => held.space ≠ room.space) ++ [room]
      else registry.roomsOf other := by
  rw [joinExclusive_eq]
  simp only [enterRoom]
  rw [roomsOf_addMember _ _ _ _ (by rw [profileOf_leaveRooms]; exact live)]
  by_cases same : client = other
  · subst same
    rw [roomsOf_leaveFamily]
    simp
  · simp [same]

theorem leaveRoom_shifts (wellFormed : registry.WellFormed) (client : ClientId) (room : Room) :
    Shifts registry (registry.leaveRoom client room).2 (registry.leaveRoom client room).1 := by
  rw [leaveRoom_registry]
  unfold leaveRoom
  split
  · rename_i member
    exact (Shift.left member).shifts
  · rename_i absent
    rw [wellFormed.removeMember_of_not_mem absent]
    exact .still registry

theorem leaveRooms_shifts (wellFormed : registry.WellFormed) (client : ClientId)
    (rooms : List Room) :
    Shifts registry (registry.leaveRooms client rooms).2
      (registry.leaveRooms client rooms).1 := by
  induction rooms generalizing registry with
  | nil => exact .still registry
  | cons room rest induction =>
      have first := leaveRoom_shifts wellFormed client room
      exact first.trans (induction (wellFormed.shifts first))

theorem joinExclusive_shifts (wellFormed : registry.WellFormed) (room : Room)
    {identity : Identity} (known : registry.profileOf client = some (space, .known identity)) :
    Shifts registry (registry.joinExclusive client room).2
      (registry.joinExclusive client room).1 := by
  rw [joinExclusive_eq]
  apply (leaveRooms_shifts wellFormed client _).trans
  apply Shift.shifts
  apply Shift.entered
  · rw [profileOf_leaveRooms]
    exact known
  · intro other held
    rw [roomsOf_leaveFamily] at held
    simpa using (List.mem_filter.mp held).2

/-! ## Operations by profile -/

theorem authenticate_of_unknown (identity : Identity)
    (unknown : registry.profileOf client = none) :
    registry.authenticate client identity = ⟨false, registry, []⟩ := by
  simp only [profileOf, Option.map_eq_none_iff] at unknown
  simp only [authenticate, unknown]

theorem authenticate_of_known (identity : Identity) {present : Identity}
    (known : registry.profileOf client = some (space, .known present)) :
    registry.authenticate client identity = ⟨false, registry, []⟩ := by
  simp only [authenticate, registry.connection_of_profileOf client known]

theorem authenticate_of_unparked (identity : Identity)
    (waiting : registry.profileOf client = some (space, .waiting none)) :
    registry.authenticate client identity =
      ⟨true, registry.identify client space identity, []⟩ := by
  simp only [authenticate, registry.connection_of_profileOf client waiting]
  rfl

theorem authenticate_of_parked (identity : Identity) {room : Room}
    (waiting : registry.profileOf client = some (space, .waiting (some room))) :
    registry.authenticate client identity =
      ⟨true, ((registry.identify client space identity).joinExclusive client room).1,
        ((registry.identify client space identity).joinExclusive client room).2⟩ := by
  simp only [authenticate, registry.connection_of_profileOf client waiting]
  rfl

theorem requestJoin_of_unknown (room : Room) (unknown : registry.profileOf client = none) :
    registry.requestJoin client room = ⟨.disconnected, registry, []⟩ := by
  simp only [profileOf, Option.map_eq_none_iff] at unknown
  simp only [requestJoin, unknown]

theorem requestJoin_of_waiting (room : Room) {parked : Option Room}
    (waiting : registry.profileOf client = some (space, .waiting parked)) :
    registry.requestJoin client room =
      ⟨.parked, registry.withStanding client (.waiting (some room)), []⟩ := by
  simp only [requestJoin, registry.connection_of_profileOf client waiting]

theorem requestJoin_of_known (room : Room) {identity : Identity}
    (known : registry.profileOf client = some (space, .known identity)) :
    registry.requestJoin client room =
      ⟨.joined room, (registry.joinExclusive client room).1,
        (registry.joinExclusive client room).2⟩ := by
  simp only [requestJoin, registry.connection_of_profileOf client known]

theorem disconnect_of_unknown (unknown : registry.profileOf client = none) :
    registry.disconnect client = ⟨(), registry, []⟩ := by
  simp only [profileOf, Option.map_eq_none_iff] at unknown
  simp only [disconnect, unknown]

theorem disconnect_of_profileOf {standing : Standing}
    (profile : registry.profileOf client = some (space, standing)) :
    registry.disconnect client =
      ⟨(), (registry.leaveRooms client (registry.roomsOf client)).1.forget client standing,
        (registry.leaveRooms client (registry.roomsOf client)).2⟩ := by
  simp only [disconnect, registry.connection_of_profileOf client profile, forget]
  rfl

theorem authenticate_answer (registry : Registry) (client : ClientId) (identity : Identity) :
    (registry.authenticate client identity).answer =
      (registry.profileOf client).any fun profile => profile.2.identity?.isNone := by
  cases profile : registry.profileOf client with
  | none =>
      rw [authenticate_of_unknown identity profile]
      rfl
  | some pair =>
      obtain ⟨space, standing⟩ := pair
      cases standing with
      | known present =>
          rw [authenticate_of_known identity profile]
          rfl
      | waiting parked =>
          cases parked with
          | none =>
              rw [authenticate_of_unparked identity profile]
              rfl
          | some room =>
              rw [authenticate_of_parked identity profile]
              rfl

theorem requestJoin_answer (registry : Registry) (client : ClientId) (room : Room) :
    (registry.requestJoin client room).answer =
      match registry.profileOf client with
      | none => .disconnected
      | some (_, .waiting _) => .parked
      | some (_, .known _) => .joined room := by
  cases profile : registry.profileOf client with
  | none => rw [requestJoin_of_unknown room profile]
  | some pair =>
      obtain ⟨space, standing⟩ := pair
      cases standing with
      | waiting parked => rw [requestJoin_of_waiting room profile]
      | known identity => rw [requestJoin_of_known room profile]

/-! ## Operations are shifts -/

theorem withdraw_shifts (registry : Registry) (client : ClientId) (room : Room) :
    Shifts registry [] (registry.withdraw client room) := by
  unfold withdraw
  split
  · rename_i parked
    rw [parkedRoom_eq] at parked
    cases profile : registry.profileOf client with
    | none => simp [profile] at parked
    | some pair =>
        obtain ⟨space, standing⟩ := pair
        cases standing with
        | waiting request => exact (Shift.parked none profile).shifts
        | known identity => simp [profile, Standing.parked?] at parked
  · exact .still registry

theorem authenticate_shifts (wellFormed : registry.WellFormed) (client : ClientId)
    (identity : Identity) :
    Shifts registry (registry.authenticate client identity).movements
      (registry.authenticate client identity).registry := by
  cases profile : registry.profileOf client with
  | none =>
      rw [authenticate_of_unknown identity profile]
      exact .still registry
  | some pair =>
      obtain ⟨space, standing⟩ := pair
      cases standing with
      | known present =>
          rw [authenticate_of_known identity profile]
          exact .still registry
      | waiting parked =>
          have identified := (Shift.identified identity profile).shifts
          cases parked with
          | none =>
              rw [authenticate_of_unparked identity profile]
              exact identified
          | some room =>
              rw [authenticate_of_parked identity profile]
              have known : (registry.identify client space identity).profileOf client =
                  some (space, .known identity) := by
                simp [profile]
              exact identified.trans
                (joinExclusive_shifts (wellFormed.shifts identified) room known)

theorem requestJoin_shifts (wellFormed : registry.WellFormed) (client : ClientId) (room : Room) :
    Shifts registry (registry.requestJoin client room).movements
      (registry.requestJoin client room).registry := by
  cases profile : registry.profileOf client with
  | none =>
      rw [requestJoin_of_unknown room profile]
      exact .still registry
  | some pair =>
      obtain ⟨space, standing⟩ := pair
      cases standing with
      | waiting parked =>
          rw [requestJoin_of_waiting room profile]
          exact (Shift.parked (some room) profile).shifts
      | known identity =>
          rw [requestJoin_of_known room profile]
          exact joinExclusive_shifts wellFormed room profile

theorem leave_shifts (wellFormed : registry.WellFormed) (client : ClientId) (room : Room) :
    Shifts registry (registry.leave client room).movements
      (registry.leave client room).registry := by
  have withdrawn := withdraw_shifts registry client room
  exact withdrawn.trans (leaveRoom_shifts (wellFormed.shifts withdrawn) client room)

/-- Whoever is not in a room gives up no more than a request for it. -/
theorem WellFormed.leave_of_absent (wellFormed : registry.WellFormed) {room : Room}
    (absent : client ∉ registry.membersOf room) :
    registry.leave client room = ⟨(), registry.withdraw client room, []⟩ := by
  have withdrawn := wellFormed.shifts (withdraw_shifts registry client room)
  have still : client ∉ (registry.withdraw client room).membersOf room := by
    unfold withdraw
    split <;> exact absent
  simp only [leave, leaveRoom, if_neg still, withdrawn.removeMember_of_not_mem still]

theorem disconnect_shifts (wellFormed : registry.WellFormed) (client : ClientId) :
    Shifts registry (registry.disconnect client).movements
      (registry.disconnect client).registry := by
  cases profile : registry.profileOf client with
  | none =>
      rw [disconnect_of_unknown profile]
      exact .still registry
  | some pair =>
      obtain ⟨space, standing⟩ := pair
      rw [disconnect_of_profileOf profile]
      have left := leaveRooms_shifts wellFormed client (registry.roomsOf client)
      have kept : (registry.leaveRooms client (registry.roomsOf client)).1.profileOf client =
          some (space, standing) := by
        rw [profileOf_leaveRooms]
        exact profile
      have forgotten := Shift.forgotten kept (registry.roomsOf_leaveRooms_self client)
      simpa using left.trans forgotten.shifts

end SharedEditing.Registry
