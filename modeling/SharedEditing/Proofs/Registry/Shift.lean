import SharedEditing.Proofs.Registry.WellFormed

/-! # Shifts

The smallest changes of a registry. Each moves one connection once, and says what
had to be true before. What every shift keeps, every operation keeps. -/

namespace SharedEditing.Registry

/-- Learn who a connection is. An application connection starts to listen. -/
def identify (registry : Registry) (client : ClientId) (space : Space) (identity : Identity) :
    Registry :=
  let known := registry.withStanding client (.known identity)
  if space = .app then known.subscribe client identity.email else known

def forget (registry : Registry) (client : ClientId) (standing : Standing) : Registry :=
  match standing.identity? with
  | some identity => (registry.dropConnection client).unsubscribe client identity.email
  | none => registry.dropConnection client

inductive Shift : Registry → List Movement → Registry → Prop where
  /-- An unknown person's request is set or withdrawn. -/
  | parked {registry : Registry} {client : ClientId} {space : Space} {before : Option Room}
      (request : Option Room)
      (waiting : registry.profileOf client = some (space, .waiting before)) :
      Shift registry [] (registry.withStanding client (.waiting request))
  | identified {registry : Registry} {client : ClientId} {space : Space} {parked : Option Room}
      (identity : Identity)
      (waiting : registry.profileOf client = some (space, .waiting parked)) :
      Shift registry [] (registry.identify client space identity)
  | left {registry : Registry} {client : ClientId} {room : Room}
      (member : client ∈ registry.membersOf room) :
      Shift registry [.left room client ((registry.removeMember client room).members room)]
        (registry.removeMember client room)
  /-- A known person enters a room, and is in no room of the family by then. -/
  | entered {registry : Registry} {client : ClientId} {room : Room} {space : Space}
      {identity : Identity}
      (known : registry.profileOf client = some (space, .known identity))
      (free : ∀ other ∈ registry.roomsOf client, other.space ≠ room.space) :
      Shift registry [.joined room client ((registry.addMember client room).members room)]
        (registry.addMember client room)
  | forgotten {registry : Registry} {client : ClientId} {space : Space} {standing : Standing}
      (profile : registry.profileOf client = some (space, standing))
      (roomless : registry.roomsOf client = []) :
      Shift registry [] (registry.forget client standing)

inductive Shifts : Registry → List Movement → Registry → Prop where
  | still (registry : Registry) : Shifts registry [] registry
  | more {registry next after : Registry} {movements rest : List Movement}
      (shift : Shift registry movements next) (shifts : Shifts next rest after) :
      Shifts registry (movements ++ rest) after

theorem Shift.shifts {registry after : Registry} {movements : List Movement}
    (shift : Shift registry movements after) : Shifts registry movements after := by
  simpa using Shifts.more shift (.still after)

theorem Shifts.trans {registry next after : Registry} {movements rest : List Movement}
    (first : Shifts registry movements next) (second : Shifts next rest after) :
    Shifts registry (movements ++ rest) after := by
  induction first with
  | still => exact second
  | more shift _ induction =>
      rw [List.append_assoc]
      exact .more shift (induction second)

/-! ## Views of a shift -/

section Views

variable (registry : Registry) (client other : ClientId) (space : Space) (identity : Identity)
  (standing : Standing) (place : Room) (address : String)

@[simp] theorem profileOf_identify :
    (registry.identify client space identity).profileOf other =
      if client = other then
        (registry.profileOf other).map fun profile => (profile.1, .known identity)
      else registry.profileOf other := by
  unfold identify
  split <;> simp [profileOf_subscribe, profileOf_withStanding]

@[simp] theorem roomsOf_identify :
    (registry.identify client space identity).roomsOf other = registry.roomsOf other := by
  unfold identify
  split <;> simp [roomsOf_subscribe, roomsOf_withStanding]

@[simp] theorem membersOf_identify :
    (registry.identify client space identity).membersOf place = registry.membersOf place := by
  unfold identify
  split <;> rfl

@[simp] theorem listeners_identify :
    (registry.identify client space identity).listeners address =
      if (space = .app ∧ identity.email = address) ∧ client ∉ registry.listeners address
      then registry.listeners address ++ [client]
      else registry.listeners address := by
  unfold identify
  cases space with
  | app => by_cases same : identity.email = address <;> simp [same]
  | page => simp

@[simp] theorem profileOf_forget :
    (registry.forget client standing).profileOf other =
      if client = other then none else registry.profileOf other := by
  unfold forget
  split <;> simp [profileOf_unsubscribe, profileOf_dropConnection]

@[simp] theorem roomsOf_forget :
    (registry.forget client standing).roomsOf other =
      if client = other then [] else registry.roomsOf other := by
  unfold forget
  split <;> simp [roomsOf_unsubscribe, roomsOf_dropConnection]

@[simp] theorem membersOf_forget :
    (registry.forget client standing).membersOf place = registry.membersOf place := by
  unfold forget
  split <;> rfl

@[simp] theorem listeners_forget :
    (registry.forget client standing).listeners address =
      if standing.identity?.any (fun identity => identity.email = address)
      then (registry.listeners address).filter (· ≠ client)
      else registry.listeners address := by
  unfold forget
  cases standing.identity? <;>
    simp [listeners_unsubscribe, listeners_dropConnection]

end Views

theorem Shift.existed {registry after : Registry} {movements : List Movement} {client : ClientId}
    (shift : Shift registry movements after) (live : after.profileOf client ≠ none) :
    registry.profileOf client ≠ none := by
  intro unknown
  apply live
  cases shift <;> simp [unknown]

theorem Shifts.existed {registry after : Registry} {movements : List Movement} {client : ClientId}
    (shifts : Shifts registry movements after) (live : after.profileOf client ≠ none) :
    registry.profileOf client ≠ none := by
  induction shifts with
  | still => exact live
  | more shift _ induction => exact shift.existed (induction live)

/-! ## Membership after a change -/

section Entering

variable {registry : Registry} {client other : ClientId} {room place : Room}

theorem mem_of_mem_removeMember (held : place ∈ (registry.removeMember client room).roomsOf other) :
    place ∈ registry.roomsOf other := by
  rw [roomsOf_removeMember] at held
  split at held
  · exact List.mem_of_mem_filter held
  · exact held

theorem mem_roomsOf_addMember {profile : Space × Standing}
    (live : registry.profileOf client = some profile) :
    place ∈ (registry.addMember client room).roomsOf other ↔
      place ∈ registry.roomsOf other ∨ client = other ∧ room = place := by
  rw [registry.roomsOf_addMember client other room live]
  split
  · rename_i added
    simp [added.1, eq_comm]
  · rename_i kept
    constructor
    · exact .inl
    · intro cause
      rcases cause with held | ⟨sameClient, sameRoom⟩
      · exact held
      · subst sameRoom
        by_contra absent
        exact kept ⟨sameClient, absent⟩

theorem mem_membersOf_addMember :
    other ∈ (registry.addMember client room).membersOf place ↔
      other ∈ registry.membersOf place ∨ room = place ∧ client = other := by
  rw [membersOf_addMember]
  split
  · rename_i added
    simp [added.1, eq_comm]
  · rename_i kept
    constructor
    · exact .inl
    · intro cause
      rcases cause with member | ⟨sameRoom, sameClient⟩
      · exact member
      · subst sameClient
        by_contra absent
        exact kept ⟨sameRoom, absent⟩

theorem mem_roomsOf_forget {standing : Standing} :
    place ∈ (registry.forget client standing).roomsOf other ↔
      client ≠ other ∧ place ∈ registry.roomsOf other := by
  rw [roomsOf_forget]
  split <;> simp_all

theorem mem_roomsOf_connect {space : Space} :
    place ∈ (registry.connect client space).roomsOf other ↔
      client ≠ other ∧ place ∈ registry.roomsOf other := by
  rw [roomsOf_connect]
  split <;> simp_all

end Entering

/-! ## Shifts keep a registry well formed -/

namespace WellFormed

variable {registry : Registry} {client : ClientId} {room : Room} {space : Space}

private theorem parked (wellFormed : registry.WellFormed) {before : Option Room}
    (request : Option Room)
    (waiting : registry.profileOf client = some (space, .waiting before)) :
    (registry.withStanding client (.waiting request)).WellFormed where
  agree other place := by simpa using wellFormed.agree other place
  nodup_rooms other := by simpa using wellFormed.nodup_rooms other
  nodup_members := wellFormed.nodup_members
  occupied_rooms := wellFormed.occupied_rooms
  one_room other := by simpa using wellFormed.one_room other
  known other place held := by
    rw [roomsOf_withStanding] at held
    have different : client ≠ other := by
      intro equal
      subst equal
      simp [wellFormed.roomsOf_of_waiting waiting] at held
    rw [profileOf_withStanding, if_neg different]
    exact wellFormed.known other place held
  listening email other := by
    rw [listeners_withStanding, profileOf_withStanding, wellFormed.listening email other]
    by_cases same : client = other
    · subst same
      simp [waiting]
    · simp [same]
  nodup_listeners := wellFormed.nodup_listeners
  occupied_channels := wellFormed.occupied_channels

private theorem identified (wellFormed : registry.WellFormed) {parked : Option Room}
    (identity : Identity) (waiting : registry.profileOf client = some (space, .waiting parked)) :
    (registry.identify client space identity).WellFormed where
  agree other place := by simpa using wellFormed.agree other place
  nodup_rooms other := by simpa using wellFormed.nodup_rooms other
  nodup_members place := by simpa using wellFormed.nodup_members place
  occupied_rooms := by
    unfold identify
    split <;> exact wellFormed.occupied_rooms
  one_room other := by simpa using wellFormed.one_room other
  known other place held := by
    rw [roomsOf_identify] at held
    have different : client ≠ other := by
      intro equal
      subst equal
      simp [wellFormed.roomsOf_of_waiting waiting] at held
    rw [profileOf_identify, if_neg different]
    exact wellFormed.known other place held
  listening email other := by
    rw [listeners_identify, profileOf_identify]
    by_cases same : client = other
    · subst same
      have absent := wellFormed.not_listening_of_waiting waiting email
      by_cases own : space = .app ∧ identity.email = email <;> simp [own, absent, waiting]
    · have agreed := wellFormed.listening email other
      split <;> simp [Ne.symm same, agreed]
  nodup_listeners email := by
    have distinct := wellFormed.nodup_listeners email
    rw [listeners_identify]
    split
    · rename_i added
      rw [← List.concat_eq_append]
      exact List.Nodup.concat added.2 distinct
    · exact distinct
  occupied_channels email := by
    unfold identify
    split
    · exact occupied_subscribe _ _ _ _ wellFormed.occupied_channels
    · exact wellFormed.occupied_channels email

private theorem left (wellFormed : registry.WellFormed) (client : ClientId) (room : Room) :
    (registry.removeMember client room).WellFormed where
  agree other place := by
    have agreed := wellFormed.agree other place
    rw [roomsOf_removeMember, membersOf_removeMember]
    by_cases sameClient : client = other <;> by_cases sameRoom : room = place <;>
      simp [sameClient, sameRoom, agreed, eq_comm]
  nodup_rooms other := by
    rw [roomsOf_removeMember]
    split
    · exact (wellFormed.nodup_rooms other).filter _
    · exact wellFormed.nodup_rooms other
  nodup_members place := by
    rw [membersOf_removeMember]
    split
    · exact (wellFormed.nodup_members place).filter _
    · exact wellFormed.nodup_members place
  occupied_rooms place := occupied_removeMember _ _ _ _ wellFormed.occupied_rooms
  one_room other first held second also :=
    wellFormed.one_room other first (mem_of_mem_removeMember held) second
      (mem_of_mem_removeMember also)
  known other place held := by
    rw [profileOf_removeMember]
    exact wellFormed.known other place (mem_of_mem_removeMember held)
  listening email other := by simpa using wellFormed.listening email other
  nodup_listeners := wellFormed.nodup_listeners
  occupied_channels := wellFormed.occupied_channels

private theorem entered (wellFormed : registry.WellFormed) {identity : Identity}
    (known : registry.profileOf client = some (space, .known identity))
    (free : ∀ other ∈ registry.roomsOf client, other.space ≠ room.space) :
    (registry.addMember client room).WellFormed where
  agree other place := by
    have agreed := wellFormed.agree other place
    rw [mem_roomsOf_addMember known, mem_membersOf_addMember, agreed]
    constructor <;> intro cause <;> rcases cause with member | ⟨sameClient, sameRoom⟩
    · exact .inl member
    · exact .inr ⟨sameRoom, sameClient⟩
    · exact .inl member
    · exact .inr ⟨sameRoom, sameClient⟩
  nodup_rooms other := by
    rw [registry.roomsOf_addMember client other room known]
    split
    · rename_i added
      rw [← List.concat_eq_append]
      exact List.Nodup.concat added.2 (wellFormed.nodup_rooms other)
    · exact wellFormed.nodup_rooms other
  nodup_members place := by
    rw [membersOf_addMember]
    split
    · rename_i added
      rw [← List.concat_eq_append]
      exact List.Nodup.concat added.2 (wellFormed.nodup_members place)
    · exact wellFormed.nodup_members place
  occupied_rooms place := occupied_addMember _ _ _ _ wellFormed.occupied_rooms
  one_room other first held second also sameSpace := by
    rw [mem_roomsOf_addMember known] at held also
    rcases held with held | ⟨rfl, rfl⟩ <;> rcases also with also | ⟨equal, rfl⟩
    · exact wellFormed.one_room other first held second also sameSpace
    · subst equal
      exact False.elim (free first held sameSpace)
    · exact False.elim (free second also sameSpace.symm)
    · rfl
  known other place held := by
    rw [profileOf_addMember]
    rcases (mem_roomsOf_addMember known).mp held with held | ⟨rfl, rfl⟩
    · exact wellFormed.known other place held
    · exact ⟨space, identity, known⟩
  listening email other := by simpa using wellFormed.listening email other
  nodup_listeners := wellFormed.nodup_listeners
  occupied_channels := wellFormed.occupied_channels

private theorem forgotten (wellFormed : registry.WellFormed) {standing : Standing}
    (profile : registry.profileOf client = some (space, standing))
    (roomless : registry.roomsOf client = []) :
    (registry.forget client standing).WellFormed where
  agree other place := by
    rw [mem_roomsOf_forget, membersOf_forget, ← wellFormed.agree other place]
    refine and_iff_right_of_imp fun held equal => ?_
    subst equal
    simp [roomless] at held
  nodup_rooms other := by
    rw [roomsOf_forget]
    split
    · exact List.nodup_nil
    · exact wellFormed.nodup_rooms other
  nodup_members place := by simpa using wellFormed.nodup_members place
  occupied_rooms := by
    unfold forget
    split <;> exact wellFormed.occupied_rooms
  one_room other first held second also :=
    wellFormed.one_room other first (mem_roomsOf_forget.mp held).2 second
      (mem_roomsOf_forget.mp also).2
  known other place held := by
    rcases mem_roomsOf_forget.mp held with ⟨different, held⟩
    rw [profileOf_forget, if_neg different]
    exact wellFormed.known other place held
  listening email other := by
    have agreed := wellFormed.listening email other
    rw [listeners_forget, profileOf_forget]
    by_cases same : client = other
    · subst same
      -- Where the connection listens the address is its own, and is cleared.
      have own : client ∈ registry.listeners email →
          standing.identity?.any (fun identity => identity.email = email) := by
        intro listening
        rcases agreed.mp listening with ⟨identity, known, address⟩
        simp only [profile, Option.some.injEq, Prod.mk.injEq] at known
        simp [known.2, Standing.identity?, address]
      split
      · simp
      · rename_i foreign
        simpa using fun listening => foreign (own listening)
    · split <;> simp [Ne.symm same, agreed]
  nodup_listeners email := by
    rw [listeners_forget]
    split
    · exact (wellFormed.nodup_listeners email).filter _
    · exact wellFormed.nodup_listeners email
  occupied_channels email := by
    unfold forget
    split
    · exact occupied_unsubscribe _ _ _ _ wellFormed.occupied_channels
    · exact wellFormed.occupied_channels email

theorem shift {after : Registry} {movements : List Movement} (wellFormed : registry.WellFormed)
    (shift : Shift registry movements after) : after.WellFormed := by
  cases shift with
  | parked request waiting => exact wellFormed.parked request waiting
  | identified identity waiting => exact wellFormed.identified identity waiting
  | left member => exact wellFormed.left _ _
  | entered known free => exact wellFormed.entered known free
  | forgotten profile roomless => exact wellFormed.forgotten profile roomless

theorem shifts {after : Registry} {movements : List Movement} (wellFormed : registry.WellFormed)
    (shifts : Shifts registry movements after) : after.WellFormed := by
  induction shifts with
  | still => exact wellFormed
  | more shift _ induction => exact induction (wellFormed.shift shift)

theorem connect (wellFormed : registry.WellFormed) (space : Space)
    (unknown : registry.profileOf client = none) : (registry.connect client space).WellFormed where
  agree other place := by
    rw [mem_roomsOf_connect, membersOf_connect, ← wellFormed.agree other place]
    refine and_iff_right_of_imp fun held equal => ?_
    subst equal
    simp [registry.roomsOf_eq_nil_of_profileOf client unknown] at held
  nodup_rooms other := by
    rw [roomsOf_connect]
    split
    · exact List.nodup_nil
    · exact wellFormed.nodup_rooms other
  nodup_members := wellFormed.nodup_members
  occupied_rooms := wellFormed.occupied_rooms
  one_room other first held second also :=
    wellFormed.one_room other first (mem_roomsOf_connect.mp held).2 second
      (mem_roomsOf_connect.mp also).2
  known other place held := by
    rcases mem_roomsOf_connect.mp held with ⟨different, held⟩
    rw [profileOf_connect, if_neg different]
    exact wellFormed.known other place held
  listening email other := by
    rw [listeners_connect, profileOf_connect, wellFormed.listening email other]
    by_cases same : client = other
    · subst same
      simp [unknown]
    · simp [same]
  nodup_listeners := wellFormed.nodup_listeners
  occupied_channels := wellFormed.occupied_channels

end WellFormed

end SharedEditing.Registry
