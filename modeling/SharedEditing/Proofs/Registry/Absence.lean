import SharedEditing.Proofs.Registry.Acts

/-! # A connection that is in no room

Nothing that the others do depends on a connection that is in no room. Dropping it before
their operation or after it comes to the same registry, with the same movements. And
what such a connection does itself, as long as nobody knows whose it is, concerns nothing
but its own entry. -/

namespace SharedEditing.Registry

def Step.apart {α : Type} (other : ClientId) (step : Step α) : Step α :=
  ⟨step.answer, step.registry.dropConnection other, step.movements⟩

theorem Step.eq_apart {α : Type} {step alone : Step α} {other : ClientId}
    (answer : alone.answer = step.answer)
    (moves : (alone.registry, alone.movements) =
      (step.registry.dropConnection other, step.movements)) : alone = step.apart other := by
  cases alone
  cases answer
  cases moves
  rfl

def Absent (registry : Registry) (other : ClientId) : Prop :=
  ∀ room, other ∉ registry.membersOf room

variable {registry after : Registry} {client other : ClientId}

/-! ## Single changes -/

section Changes

variable (registry) (client : ClientId) (room : Room)

theorem withStanding_apart (standing : Standing) (other : ClientId) :
    (registry.dropConnection other).withStanding client standing =
      (registry.withStanding client standing).dropConnection other := by
  unfold dropConnection withStanding
  rw [registry.connections.erase_modify client]

theorem removeMember_apart (other : ClientId) :
    (registry.dropConnection other).removeMember client room =
      (registry.removeMember client room).dropConnection other := by
  unfold dropConnection removeMember
  rw [registry.connections.erase_modify client]
  rfl

theorem addMember_apart (other : ClientId) :
    (registry.dropConnection other).addMember client room =
      (registry.addMember client room).dropConnection other := by
  unfold dropConnection addMember
  rw [registry.connections.erase_modify client]
  rfl

theorem identify_apart (space : Space) (identity : Identity) (other : ClientId) :
    (registry.dropConnection other).identify client space identity =
      (registry.identify client space identity).dropConnection other := by
  unfold identify
  rw [registry.withStanding_apart client _ other]
  split <;> rfl

theorem forget_apart (standing : Standing) (other : ClientId) :
    (registry.dropConnection other).forget client standing =
      (registry.forget client standing).dropConnection other := by
  have swapped : (registry.dropConnection other).dropConnection client =
      (registry.dropConnection client).dropConnection other := by
    unfold dropConnection
    rw [registry.connections.erase_comm other client]
  unfold forget
  rw [swapped]
  split <;> rfl

end Changes

section Different

variable (registry) (different : client ≠ other)

include different

theorem connect_apart (space : Space) :
    (registry.dropConnection other).connect client space =
      (registry.connect client space).dropConnection other := by
  unfold dropConnection connect
  rw [registry.connections.erase_set_of_ne client _ different]

theorem profileOf_apart :
    (registry.dropConnection other).profileOf client = registry.profileOf client := by
  rw [profileOf_dropConnection, if_neg different.symm]

theorem roomsOf_apart :
    (registry.dropConnection other).roomsOf client = registry.roomsOf client := by
  rw [roomsOf_dropConnection, if_neg different.symm]

theorem senderContext_apart (space : Space) :
    (registry.dropConnection other).senderContext client space =
      registry.senderContext client space := by
  unfold senderContext dropConnection
  rw [Table.get?_erase, if_neg different.symm]

end Different

/-! ## Operations of the others -/

namespace Absent

variable {room : Room} (absent : registry.Absent other)

include absent

theorem members_apart (room : Room) :
    (registry.dropConnection other).members room = registry.members room := by
  have same : (registry.dropConnection other).membersOf room = registry.membersOf room := rfl
  apply members_congr same
  intro client member
  apply registry.profileOf_apart
  intro same
  exact absent room (same ▸ member)

theorem act (different : client ≠ other) (only : Act) :
    (registry.act client only).1.Absent other := by
  intro room member
  rcases of_mem_membersOf_act member with ⟨same, _⟩ | before
  · exact different same.symm
  · exact absent room before

theorem act_apart (different : client ≠ other) (only : Act) :
    (registry.dropConnection other).act client only =
      ((registry.act client only).1.dropConnection other, (registry.act client only).2) := by
  have still := absent.act different only
  cases only with
  | stand standing => simp only [Registry.act, withStanding_apart]
  | identify space identity => simp only [Registry.act, identify_apart]
  | leave room =>
      rw [Registry.act, leaveRoom_registry] at still
      simp only [Registry.act, leaveRoom, removeMember_apart, still.members_apart room,
        membersOf_dropConnection]
      split <;> rfl
  | enter room =>
      change (registry.addMember client room).Absent other at still
      simp only [Registry.act, enterRoom, addMember_apart, still.members_apart room]
  | forget standing => simp only [Registry.act, forget_apart]

theorem follow_apart (different : client ≠ other) (acts : List Act) :
    (registry.dropConnection other).follow client acts =
      ((registry.follow client acts).1.dropConnection other,
        (registry.follow client acts).2) := by
  induction acts generalizing registry with
  | nil => rfl
  | cons first rest induction =>
      simp only [follow, absent.act_apart different first, induction (absent.act different first)]

section Operations

variable (wellFormed : registry.WellFormed) (dropped : (registry.dropConnection other).WellFormed)
  (different : client ≠ other)

include wellFormed dropped different

theorem operate_apart (operation : Operation) :
    (registry.dropConnection other).operate client operation =
      ((registry.operate client operation).1.dropConnection other,
        (registry.operate client operation).2) := by
  rw [dropped.operate_eq, wellFormed.operate_eq, registry.profileOf_apart different,
    registry.roomsOf_apart different, absent.follow_apart different]

theorem authenticate_apart (identity : Identity) :
    (registry.dropConnection other).authenticate client identity =
      (registry.authenticate client identity).apart other := by
  refine Step.eq_apart ?_ (absent.operate_apart wellFormed dropped different
    (.authenticate identity))
  rw [authenticate_answer, authenticate_answer, registry.profileOf_apart different]

theorem requestJoin_apart (room : Room) :
    (registry.dropConnection other).requestJoin client room =
      (registry.requestJoin client room).apart other := by
  refine Step.eq_apart ?_ (absent.operate_apart wellFormed dropped different (.requestJoin room))
  rw [requestJoin_answer, requestJoin_answer, registry.profileOf_apart different]

theorem leave_apart (room : Room) :
    (registry.dropConnection other).leave client room =
      (registry.leave client room).apart other :=
  Step.eq_apart rfl (absent.operate_apart wellFormed dropped different (.leave room))

theorem disconnect_apart :
    (registry.dropConnection other).disconnect client =
      (registry.disconnect client).apart other :=
  Step.eq_apart rfl (absent.operate_apart wellFormed dropped different .disconnect)

end Operations

end Absent

/-! ## Operations of the connection itself -/

theorem profileOf_of_unidentified (unidentified : registry.identityOf client = none) :
    registry.profileOf client = none ∨
      ∃ space parked, registry.profileOf client = some (space, .waiting parked) := by
  rw [identityOf_eq] at unidentified
  cases profile : registry.profileOf client with
  | none => exact .inl rfl
  | some pair =>
      obtain ⟨space, standing⟩ := pair
      cases standing with
      | waiting parked => exact .inr ⟨space, parked, rfl⟩
      | known identity => simp [profile, Standing.identity?] at unidentified

theorem dropConnection_withStanding (registry : Registry) (client : ClientId)
    (standing : Standing) :
    (registry.withStanding client standing).dropConnection client =
      registry.dropConnection client := by
  unfold dropConnection withStanding
  rw [registry.connections.erase_modify_self client]

theorem dropConnection_connect (registry : Registry) (client : ClientId) (space : Space) :
    (registry.connect client space).dropConnection client = registry.dropConnection client := by
  unfold dropConnection connect
  rw [registry.connections.erase_set_self client]

theorem dropConnection_dropConnection (registry : Registry) (client : ClientId) :
    (registry.dropConnection client).dropConnection client = registry.dropConnection client := by
  unfold dropConnection
  rw [registry.connections.erase_erase_self client]

/-- Nothing but the entry of a connection is touched, and nobody moves. -/
structure Step.Unseen {α : Type} (registry : Registry) (client : ClientId) (step : Step α) :
    Prop where
  registry : step.registry.dropConnection client = registry.dropConnection client
  still : step.movements = []

namespace WellFormed

variable (wellFormed : registry.WellFormed) (unidentified : registry.identityOf client = none)

include wellFormed unidentified

theorem roomsOf_of_unidentified : registry.roomsOf client = [] := by
  rcases profileOf_of_unidentified unidentified with unknown | ⟨space, parked, waiting⟩
  · exact registry.roomsOf_eq_nil_of_profileOf client unknown
  · exact wellFormed.roomsOf_of_waiting waiting

theorem absent : registry.Absent client :=
  wellFormed.not_mem_members_of_roomless (wellFormed.roomsOf_of_unidentified unidentified)

theorem not_listening (email : String) : client ∉ registry.listeners email := by
  intro listening
  rcases (wellFormed.listening email client).mp listening with ⟨identity, known, _⟩
  simp [identityOf_eq, known, Standing.identity?] at unidentified

theorem dropConnection : (registry.dropConnection client).WellFormed := by
  rcases profileOf_of_unidentified unidentified with unknown | ⟨space, parked, waiting⟩
  · simp only [profileOf, Option.map_eq_none_iff] at unknown
    have same : registry.dropConnection client = registry := by
      unfold Registry.dropConnection
      rw [Table.erase_of_get?_eq_none unknown]
    rw [same]
    exact wellFormed
  · exact wellFormed.shifts
      (Shift.forgotten waiting (wellFormed.roomsOf_of_unidentified unidentified)).shifts

omit wellFormed in
theorem requestJoin_unseen (room : Room) :
    (registry.requestJoin client room).Unseen registry client := by
  rcases profileOf_of_unidentified unidentified with unknown | ⟨space, parked, waiting⟩
  · rw [requestJoin_of_unknown room unknown]
    exact ⟨rfl, rfl⟩
  · rw [requestJoin_of_waiting room waiting]
    exact ⟨registry.dropConnection_withStanding client _, rfl⟩

theorem leave_unseen (room : Room) : (registry.leave client room).Unseen registry client := by
  rw [wellFormed.leave_of_absent (wellFormed.absent unidentified room)]
  refine ⟨?_, rfl⟩
  unfold withdraw
  split
  · exact registry.dropConnection_withStanding client _
  · rfl

theorem disconnect_unseen : (registry.disconnect client).Unseen registry client := by
  rcases profileOf_of_unidentified unidentified with unknown | ⟨space, parked, waiting⟩
  · rw [disconnect_of_unknown unknown]
    exact ⟨rfl, rfl⟩
  · rw [disconnect_of_profileOf waiting, wellFormed.roomsOf_of_unidentified unidentified]
    exact ⟨registry.dropConnection_dropConnection client, rfl⟩

omit wellFormed in
theorem authenticate_unseen (identity : Identity)
    (refused : (registry.authenticate client identity).answer = false) :
    (registry.authenticate client identity).Unseen registry client := by
  rcases profileOf_of_unidentified unidentified with unknown | ⟨space, parked, waiting⟩
  · rw [authenticate_of_unknown identity unknown]
    exact ⟨rfl, rfl⟩
  · exfalso
    cases parked with
    | none => simp [authenticate_of_unparked identity waiting] at refused
    | some room => simp [authenticate_of_parked identity waiting] at refused

omit wellFormed in
theorem senderContext_of_unidentified (space : Space) :
    registry.senderContext client space = none := by
  unfold senderContext
  unfold identityOf at unidentified
  cases found : registry.connections.get? client with
  | none => rfl
  | some connection =>
      have unknown : connection.standing.identity? = none := by simpa [found] using unidentified
      simp [unknown]

end WellFormed

/-! ## Who is told -/

theorem profileOf_of_mem_members {room : Room} {member : Member}
    (present : member ∈ registry.members room) : registry.profileOf member.client ≠ none := by
  unfold members at present
  rcases List.mem_filterMap.mp present with ⟨client, _, described⟩
  rcases Option.map_eq_some_iff.mp described with ⟨connection, found, rfl⟩
  simp [profileOf, found]

theorem Shift.told {movements : List Movement} (shift : Shift registry movements after)
    {movement : Movement} (moved : movement ∈ movements) {member : Member}
    (told : member ∈ movement.members) : after.profileOf member.client ≠ none := by
  cases shift with
  | left present =>
      rcases List.mem_singleton.mp moved with rfl
      exact profileOf_of_mem_members told
  | entered known free =>
      rcases List.mem_singleton.mp moved with rfl
      exact profileOf_of_mem_members told
  | _ => cases moved

theorem Shifts.told {movements : List Movement} (shifts : Shifts registry movements after)
    {movement : Movement} (moved : movement ∈ movements) {member : Member}
    (told : member ∈ movement.members) : registry.profileOf member.client ≠ none := by
  induction shifts with
  | still => cases moved
  | more shift _ induction =>
      rcases List.mem_append.mp moved with first | later
      · exact shift.existed (shift.told first told)
      · exact shift.existed (induction later)

end SharedEditing.Registry
