import SharedEditing.Proofs.Registry.Operations

/-! # What an operation touches

Every operation of a connection is a list of acts, and which acts these are follows from the
entry of the connection. An act reads and changes nothing but this entry and the members of
one room at most. So it comes to the same in registries that are alike there, and leaves
everything else as it was. -/

namespace SharedEditing.Registry

inductive Operation where
  | authenticate (identity : Identity)
  | requestJoin (room : Room)
  | leave (room : Room)
  | disconnect

inductive Act where
  | stand (standing : Standing)
  | identify (space : Space) (identity : Identity)
  | leave (room : Room)
  | enter (room : Room)
  | forget (standing : Standing)

def Act.room? : Act → Option Room
  | stand standing => standing.parked?
  | leave room => some room
  | enter room => some room
  | _ => none

def act (registry : Registry) (client : ClientId) : Act → Registry × List Movement
  | .stand standing => (registry.withStanding client standing, [])
  | .identify space identity => (registry.identify client space identity, [])
  | .leave room => registry.leaveRoom client room
  | .enter room => registry.enterRoom client room
  | .forget standing => (registry.forget client standing, [])

def follow (registry : Registry) (client : ClientId) : List Act → Registry × List Movement
  | [] => (registry, [])
  | first :: rest =>
      let (next, movements) := registry.act client first
      let (after, more) := next.follow client rest
      (after, movements ++ more)

def operate (registry : Registry) (client : ClientId) : Operation → Registry × List Movement
  | .authenticate identity =>
      let step := registry.authenticate client identity
      (step.registry, step.movements)
  | .requestJoin room =>
      let step := registry.requestJoin client room
      (step.registry, step.movements)
  | .leave room =>
      let step := registry.leave client room
      (step.registry, step.movements)
  | .disconnect =>
      let step := registry.disconnect client
      (step.registry, step.movements)

namespace Operation

def joining (held : List Room) (room : Room) : List Act :=
  (held.filter fun other => other.space = room.space).map .leave ++ [.enter room]

def acts (profile : Option (Space × Standing)) (held : List Room) : Operation → List Act
  | authenticate identity =>
      match profile with
      | some (space, .waiting none) => [.identify space identity]
      | some (space, .waiting (some room)) => .identify space identity :: joining held room
      | _ => []
  | requestJoin room =>
      match profile with
      | some (_, .waiting _) => [.stand (.waiting (some room))]
      | some (_, .known _) => joining held room
      | none => []
  | leave room =>
      if room ∈ held then [.leave room]
      else if profile.bind (fun profile => profile.2.parked?) = some room then
        [.stand (.waiting none)]
      else []
  | disconnect =>
      match profile with
      | some (_, standing) => held.map .leave ++ [.forget standing]
      | none => []

end Operation

variable {registry left right : Registry} {client other : ClientId} {room : Room}

/-! ## Operations as acts -/

theorem follow_append (registry : Registry) (client : ClientId) (acts more : List Act) :
    registry.follow client (acts ++ more) =
      (((registry.follow client acts).1.follow client more).1,
        (registry.follow client acts).2 ++
          ((registry.follow client acts).1.follow client more).2) := by
  induction acts generalizing registry with
  | nil => rfl
  | cons first rest induction =>
      simp only [List.cons_append, follow, induction, List.append_assoc]

theorem leaveRooms_eq (registry : Registry) (client : ClientId) (rooms : List Room) :
    registry.leaveRooms client rooms = registry.follow client (rooms.map .leave) := by
  induction rooms generalizing registry with
  | nil => rfl
  | cons room rest induction => simp only [leaveRooms, List.map_cons, follow, act, induction]

theorem follow_singleton (registry : Registry) (client : ClientId) (only : Act) :
    registry.follow client [only] = registry.act client only := by
  simp only [follow, List.append_nil]

theorem joinExclusive_eq_follow (registry : Registry) (client : ClientId) (room : Room) :
    registry.joinExclusive client room =
      registry.follow client (Operation.joining (registry.roomsOf client) room) := by
  rw [joinExclusive_eq, Operation.joining, follow_append, follow_singleton, leaveRooms_eq]
  rfl

namespace WellFormed

variable (wellFormed : registry.WellFormed)

include wellFormed

theorem leave_eq_follow (client : ClientId) (room : Room) :
    registry.operate client (.leave room) = registry.follow client
      ((Operation.leave room).acts (registry.profileOf client) (registry.roomsOf client)) := by
  by_cases held : room ∈ registry.roomsOf client
  · rcases wellFormed.known client room held with ⟨space, identity, known⟩
    have unparked : registry.withdraw client room = registry := by
      rw [withdraw, parkedRoom_eq, known]
      rfl
    rw [Operation.acts, if_pos held, follow_singleton]
    simp only [operate, leave, unparked, act]
  · have absent := mt (wellFormed.agree client room).mpr held
    simp only [operate, wellFormed.leave_of_absent absent, Operation.acts, if_neg held, withdraw,
      parkedRoom_eq]
    split
    · rw [follow_singleton]
      rfl
    · rfl

theorem operate_eq (client : ClientId) (operation : Operation) :
    registry.operate client operation = registry.follow client
      (operation.acts (registry.profileOf client) (registry.roomsOf client)) := by
  cases operation with
  | authenticate identity =>
      cases profile : registry.profileOf client with
      | none =>
          simp only [operate, authenticate_of_unknown identity profile, Operation.acts, follow]
      | some pair =>
          obtain ⟨space, standing⟩ := pair
          cases standing with
          | known present =>
              simp only [operate, authenticate_of_known identity profile, Operation.acts, follow]
          | waiting parked =>
              cases parked with
              | none =>
                  simp only [operate, authenticate_of_unparked identity profile, Operation.acts,
                    follow_singleton, act]
              | some room =>
                  simp only [operate, authenticate_of_parked identity profile, Operation.acts,
                    joinExclusive_eq_follow, roomsOf_identify, follow, act, List.nil_append]
  | requestJoin room =>
      cases profile : registry.profileOf client with
      | none => simp only [operate, requestJoin_of_unknown room profile, Operation.acts, follow]
      | some pair =>
          obtain ⟨space, standing⟩ := pair
          cases standing with
          | waiting parked =>
              simp only [operate, requestJoin_of_waiting room profile, Operation.acts,
                follow_singleton, act]
          | known identity =>
              simp only [operate, requestJoin_of_known room profile, Operation.acts,
                joinExclusive_eq_follow]
  | leave room => exact wellFormed.leave_eq_follow client room
  | disconnect =>
      cases profile : registry.profileOf client with
      | none => simp only [operate, disconnect_of_unknown profile, Operation.acts, follow]
      | some pair =>
          simp only [operate, disconnect_of_profileOf profile, Operation.acts, leaveRooms_eq,
            follow_append, follow_singleton, act, List.append_nil]

theorem operate_shifts (client : ClientId) (operation : Operation) :
    Shifts registry (registry.operate client operation).2
      (registry.operate client operation).1 := by
  cases operation with
  | authenticate identity => exact authenticate_shifts wellFormed client identity
  | requestJoin room => exact requestJoin_shifts wellFormed client room
  | leave room => exact leave_shifts wellFormed client room
  | disconnect => exact disconnect_shifts wellFormed client

theorem operate (client : ClientId) (operation : Operation) :
    (registry.operate client operation).1.WellFormed :=
  wellFormed.shifts (wellFormed.operate_shifts client operation)

end WellFormed

theorem profile_of_identify {operation : Operation} {space : Space} {identity : Identity}
    (identifies : .identify space identity ∈
      operation.acts (registry.profileOf client) (registry.roomsOf client)) :
    ∃ standing, registry.profileOf client = some (space, standing) := by
  unfold Operation.acts Operation.joining at identifies
  cases operation with
  | authenticate given =>
      dsimp only at identifies
      split at identifies
      · rename_i family profile
        cases List.mem_singleton.mp identifies
        exact ⟨.waiting none, profile⟩
      · rename_i family room profile
        have same : space = family ∧ identity = given := by simpa using identifies
        exact ⟨.waiting (some room), same.1 ▸ profile⟩
      · cases identifies
  | requestJoin room =>
      dsimp only at identifies
      split at identifies <;> simp at identifies
  | leave room =>
      dsimp only at identifies
      split_ifs at identifies <;> simp at identifies
  | disconnect =>
      dsimp only at identifies
      split at identifies <;> simp at identifies

/-- The rooms that an operation may have to do with. -/
inductive Concerns (registry : Registry) (client : ClientId) (operation : Operation) :
    Room → Prop where
  | held {room : Room} (held : room ∈ registry.roomsOf client) :
      Concerns registry client operation room
  | parked {room : Room} (parked : registry.parkedRoom client = some room) :
      Concerns registry client operation room
  | requested {room : Room} (requested : operation = .requestJoin room) :
      Concerns registry client operation room

theorem mem_joining_room? {held : List Room} {wanted : Room} {only : Act}
    (member : only ∈ Operation.joining held wanted) (touched : only.room? = some room) :
    room ∈ held ∨ room = wanted := by
  rcases List.mem_append.mp member with left | entered
  · rcases List.mem_map.mp left with ⟨other, listed, rfl⟩
    cases touched
    exact .inl (List.mem_of_mem_filter listed)
  · cases List.mem_singleton.mp entered
    cases touched
    exact .inr rfl

theorem concerns_of_act {operation : Operation} {only : Act}
    (member : only ∈ operation.acts (registry.profileOf client) (registry.roomsOf client))
    (touched : only.room? = some room) : registry.Concerns client operation room := by
  unfold Operation.acts at member
  cases operation with
  | authenticate identity =>
      dsimp only at member
      split at member
      · cases List.mem_singleton.mp member
        cases touched
      · rename_i space wanted profile
        rcases List.mem_cons.mp member with rfl | joins
        · cases touched
        · rcases mem_joining_room? joins touched with held | rfl
          · exact .held held
          · exact .parked (by rw [parkedRoom_eq, profile]; rfl)
      · cases member
  | requestJoin wanted =>
      dsimp only at member
      split at member
      · cases List.mem_singleton.mp member
        cases touched
        exact .requested rfl
      · rcases mem_joining_room? member touched with held | rfl
        · exact .held held
        · exact .requested rfl
      · cases member
  | leave wanted =>
      dsimp only at member
      split_ifs at member with held
      · cases List.mem_singleton.mp member
        cases touched
        exact .held held
      · cases List.mem_singleton.mp member
        cases touched
      · cases member
  | disconnect =>
      dsimp only at member
      split at member
      · rcases List.mem_append.mp member with left | forgotten
        · rcases List.mem_map.mp left with ⟨other, held, rfl⟩
          cases touched
          exact .held held
        · cases List.mem_singleton.mp forgotten
          cases touched
      · cases member

/-! ## What an act reads -/

structure AlikeOn (clients : ClientId → Prop) (places : Room → Prop) (left right : Registry) :
    Prop where
  profile : ∀ client, clients client → left.profileOf client = right.profileOf client
  rooms : ∀ client, clients client → left.roomsOf client = right.roomsOf client
  members : ∀ room, places room → left.membersOf room = right.membersOf room

def Encloses (clients : ClientId → Prop) (places : Room → Prop) (registry : Registry) : Prop :=
  ∀ room, places room → ∀ client ∈ registry.membersOf room, clients client

variable {clients : ClientId → Prop} {places : Room → Prop}

theorem of_mem_membersOf_act {only : Act}
    (member : other ∈ (registry.act client only).1.membersOf room) :
    other = client ∧ only.room? = some room ∨ other ∈ registry.membersOf room := by
  cases only with
  | stand standing => exact .inr member
  | identify space identity => exact .inr (membersOf_identify .. ▸ member)
  | leave left =>
      rw [act, leaveRoom_registry, membersOf_removeMember] at member
      split_ifs at member
      · exact .inr (List.mem_of_mem_filter member)
      · exact .inr member
  | enter entered =>
      rcases mem_membersOf_addMember.mp member with before | ⟨same, own⟩
      · exact .inr before
      · exact .inl ⟨own.symm, congrArg some same⟩
  | forget standing => exact .inr (membersOf_forget .. ▸ member)

/-- Nobody but its own connection stands otherwise after an act, and waits for another room
only if the act is about it. -/
theorem of_profileOf_act {only : Act} {space : Space} {standing : Standing}
    (known : (registry.act client only).1.profileOf other = some (space, standing)) :
    ∃ before, registry.profileOf other = some (space, before) ∧
      (standing = before ∨ other = client ∧ standing.parked? = only.room?) := by
  have changed {after : Standing}
      (moved : (if client = other then
          (registry.profileOf other).map fun profile => (profile.1, after)
        else registry.profileOf other) = some (space, standing)) :
      ∃ before, registry.profileOf other = some (space, before) ∧
        (standing = before ∨ other = client ∧ standing = after) := by
    split_ifs at moved with own
    · rcases Option.map_eq_some_iff.mp moved with ⟨⟨family, before⟩, found, same⟩
      cases same
      exact ⟨before, found, .inr ⟨own.symm, rfl⟩⟩
    · exact ⟨standing, moved, .inl rfl⟩
  cases only with
  | stand after =>
      rcases changed ((profileOf_withStanding ..).symm.trans known) with
        ⟨before, found, same | ⟨own, rfl⟩⟩
      · exact ⟨before, found, .inl same⟩
      · exact ⟨before, found, .inr ⟨own, rfl⟩⟩
  | identify family identity =>
      rcases changed ((profileOf_identify ..).symm.trans known) with
        ⟨before, found, same | ⟨own, rfl⟩⟩
      · exact ⟨before, found, .inl same⟩
      · exact ⟨before, found, .inr ⟨own, rfl⟩⟩
  | leave left =>
      rw [act, leaveRoom_registry, profileOf_removeMember] at known
      exact ⟨standing, known, .inl rfl⟩
  | enter entered => exact ⟨standing, (profileOf_addMember ..).symm.trans known, .inl rfl⟩
  | forget after =>
      rw [act, profileOf_forget] at known
      split_ifs at known
      exact ⟨standing, known, .inl rfl⟩

theorem Encloses.act (encloses : Encloses clients places registry) (own : clients client)
    (only : Act) : Encloses clients places (registry.act client only).1 := by
  intro room placed other member
  rcases of_mem_membersOf_act member with ⟨rfl, _⟩ | before
  · exact own
  · exact encloses room placed other before

namespace AlikeOn

theorem refl (registry : Registry) : AlikeOn clients places registry registry :=
  ⟨fun _ _ => rfl, fun _ _ => rfl, fun _ _ => rfl⟩

theorem symm (alike : AlikeOn clients places left right) : AlikeOn clients places right left where
  profile client among := (alike.profile client among).symm
  rooms client among := (alike.rooms client among).symm
  members room placed := (alike.members room placed).symm

theorem trans {middle : Registry} (first : AlikeOn clients places left middle)
    (second : AlikeOn clients places middle right) : AlikeOn clients places left right where
  profile client among := (first.profile client among).trans (second.profile client among)
  rooms client among := (first.rooms client among).trans (second.rooms client among)
  members room placed := (first.members room placed).trans (second.members room placed)

theorem members_eq (alike : AlikeOn clients places left right)
    (encloses : Encloses clients places right) (placed : places room) :
    left.members room = right.members room :=
  members_congr (alike.members room placed) fun client member =>
    alike.profile client (encloses room placed client member)

variable (alike : AlikeOn clients places left right)

include alike

theorem removeMember (client : ClientId) (room : Room) :
    AlikeOn clients places (left.removeMember client room) (right.removeMember client room) where
  profile other among := by
    rw [profileOf_removeMember, profileOf_removeMember, alike.profile other among]
  rooms other among := by
    rw [roomsOf_removeMember, roomsOf_removeMember, alike.rooms other among]
  members place placed := by
    rw [membersOf_removeMember, membersOf_removeMember, alike.members place placed]

theorem addMember (own : clients client) (room : Room) :
    AlikeOn clients places (left.addMember client room) (right.addMember client room) where
  profile other among := by
    rw [profileOf_addMember, profileOf_addMember, alike.profile other among]
  rooms other among := by
    have same := alike.profile client own
    cases profile : right.profileOf client with
    | none =>
        rw [roomsOf_addMember_of_unknown _ _ _ _ profile,
          roomsOf_addMember_of_unknown _ _ _ _ (same.trans profile), alike.rooms other among]
    | some pair =>
        rw [roomsOf_addMember _ _ _ _ profile, roomsOf_addMember _ _ _ _ (same.trans profile),
          alike.rooms other among]
  members place placed := by
    rw [membersOf_addMember, membersOf_addMember, alike.members place placed]

theorem act (encloses : Encloses clients places right) (own : clients client) {only : Act}
    (within : ∀ room, only.room? = some room → places room) :
    AlikeOn clients places (left.act client only).1 (right.act client only).1 ∧
      (left.act client only).2 = (right.act client only).2 := by
  cases only with
  | stand standing =>
      refine ⟨⟨fun other among => ?_, fun other among => ?_, alike.members⟩, rfl⟩
      · simp only [Registry.act, profileOf_withStanding, alike.profile other among]
      · simp only [Registry.act, roomsOf_withStanding, alike.rooms other among]
  | identify space identity =>
      refine ⟨⟨fun other among => ?_, fun other among => ?_, fun place placed => ?_⟩, rfl⟩
      · simp only [Registry.act, profileOf_identify, alike.profile other among]
      · simp only [Registry.act, roomsOf_identify, alike.rooms other among]
      · simp only [Registry.act, membersOf_identify, alike.members place placed]
  | leave room =>
      have placed := within room rfl
      have after := alike.removeMember client room
      have enclosed := encloses.act own (.leave room)
      rw [Registry.act, leaveRoom_registry] at enclosed
      have told := after.members_eq enclosed placed
      refine ⟨?_, ?_⟩
      · simpa only [Registry.act, leaveRoom_registry] using after
      · simp only [Registry.act, leaveRoom, alike.members room placed, told]
        split <;> rfl
  | enter room =>
      have placed := within room rfl
      have after := alike.addMember own room
      have told := after.members_eq (encloses.act own (.enter room)) placed
      exact ⟨after, by simp only [Registry.act, enterRoom, told]⟩
  | forget standing =>
      refine ⟨⟨fun other among => ?_, fun other among => ?_, fun place placed => ?_⟩, rfl⟩
      · simp only [Registry.act, profileOf_forget, alike.profile other among]
      · simp only [Registry.act, roomsOf_forget, alike.rooms other among]
      · simp only [Registry.act, membersOf_forget, alike.members place placed]

theorem follow (encloses : Encloses clients places right) (own : clients client) {acts : List Act}
    (within : ∀ only ∈ acts, ∀ room, only.room? = some room → places room) :
    AlikeOn clients places (left.follow client acts).1 (right.follow client acts).1 ∧
      (left.follow client acts).2 = (right.follow client acts).2 := by
  induction acts generalizing left right with
  | nil => exact ⟨alike, rfl⟩
  | cons first rest induction =>
      rcases List.forall_mem_cons.mp within with ⟨here, later⟩
      have acted := alike.act encloses own here
      have followed := induction acted.1 (encloses.act own first) later
      simp only [Registry.follow, acted.2, followed.2]
      exact ⟨followed.1, trivial⟩

end AlikeOn

/-! ## What an act leaves alone -/

theorem alikeOn_act (registry : Registry) (foreign : ¬clients client) {only : Act}
    (apart : ∀ room, only.room? = some room → ¬places room) :
    AlikeOn clients places (registry.act client only).1 registry := by
  have different {other : ClientId} (among : clients other) : client ≠ other :=
    fun same => foreign (same ▸ among)
  have elsewhere {room place : Room} (touched : only.room? = some room) (placed : places place) :
      room ≠ place := fun same => apart room touched (same ▸ placed)
  cases only with
  | stand standing =>
      refine ⟨fun other among => ?_, fun other among => ?_, fun _ _ => rfl⟩
      · rw [act, profileOf_withStanding, if_neg (different among)]
      · rw [act, roomsOf_withStanding]
  | identify space identity =>
      refine ⟨fun other among => ?_, fun other among => ?_, fun place placed => ?_⟩
      · rw [act, profileOf_identify, if_neg (different among)]
      · rw [act, roomsOf_identify]
      · rw [act, membersOf_identify]
  | leave room =>
      rw [act, leaveRoom_registry]
      refine ⟨fun other among => ?_, fun other among => ?_, fun place placed => ?_⟩
      · rw [profileOf_removeMember]
      · rw [roomsOf_removeMember, if_neg (different among)]
      · rw [membersOf_removeMember, if_neg (elsewhere rfl placed)]
  | enter room =>
      refine ⟨fun other among => ?_, fun other among => ?_, fun place placed => ?_⟩
      · exact profileOf_addMember ..
      · exact roomsOf_addMember_of_ne _ _ _ _ (different among)
      · exact (membersOf_addMember ..).trans (if_neg fun added => elsewhere rfl placed added.1)
  | forget standing =>
      refine ⟨fun other among => ?_, fun other among => ?_, fun place placed => ?_⟩
      · rw [act, profileOf_forget, if_neg (different among)]
      · rw [act, roomsOf_forget, if_neg (different among)]
      · rw [act, membersOf_forget]

theorem alikeOn_follow (registry : Registry) (foreign : ¬clients client) {acts : List Act}
    (apart : ∀ only ∈ acts, ∀ room, only.room? = some room → ¬places room) :
    AlikeOn clients places (registry.follow client acts).1 registry := by
  induction acts generalizing registry with
  | nil => exact .refl registry
  | cons first rest induction =>
      rcases List.forall_mem_cons.mp apart with ⟨here, later⟩
      exact (induction _ later).trans (alikeOn_act registry foreign here)

/-! ## Who is told of an act -/

/-- A movement of an act is in its room, and those who are told of it were there before, but
for the connection itself. -/
theorem of_moved_act {only : Act} {movement : Movement}
    (moved : movement ∈ (registry.act client only).2) :
    only.room? = some movement.room ∧ ∀ member ∈ movement.members,
      member.client = client ∨ member.client ∈ registry.membersOf movement.room := by
  have told {room : Room} (member : Member)
      (listed : member ∈ (registry.act client only).1.members room) :
      member.client = client ∨ member.client ∈ registry.membersOf room :=
    (of_mem_membersOf_act (mem_membersOf_of_mem_members listed)).imp_left And.left
  cases only with
  | leave room =>
      rw [act, leaveRoom_registry] at told
      rw [act, leaveRoom] at moved
      split at moved
      · cases List.mem_singleton.mp moved
        exact ⟨rfl, told⟩
      · cases moved
  | enter room =>
      cases List.mem_singleton.mp moved
      exact ⟨rfl, told⟩
  | stand | identify | forget => cases moved

theorem of_moved {acts : List Act} {movement : Movement}
    (moved : movement ∈ (registry.follow client acts).2) :
    (∃ only ∈ acts, only.room? = some movement.room) ∧ ∀ member ∈ movement.members,
      member.client = client ∨ member.client ∈ registry.membersOf movement.room := by
  induction acts generalizing registry with
  | nil => cases moved
  | cons first rest induction =>
      rcases List.mem_append.mp moved with here | later
      · have told := of_moved_act here
        exact ⟨⟨first, .head rest, told.1⟩, told.2⟩
      · rcases induction later with ⟨⟨only, listed, touched⟩, told⟩
        refine ⟨⟨only, .tail first listed, touched⟩, fun member present => ?_⟩
        rcases told member present with own | before
        · exact .inl own
        · exact (of_mem_membersOf_act before).imp_left And.left

end SharedEditing.Registry
