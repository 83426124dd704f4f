import SharedEditing.Proofs.Registry.Acts

/-! # The two families of rooms

A connection is opened for one family of rooms and asks for rooms of this family only.
Then its operations come to the same in two registries that differ in the other family,
and are not seen from there. -/

namespace SharedEditing.Registry

/-! ## Connections that stay in their family -/

/-- Everybody is in rooms of the family that they were opened for, and waits for such. -/
structure AtHome (registry : Registry) (home : ClientId → Option Space) : Prop where
  opened : ∀ client space standing,
    registry.profileOf client = some (space, standing) → home client = some space
  parked : ∀ client space room,
    registry.profileOf client = some (space, .waiting (some room)) → room.space = space
  members : ∀ room, ∀ client ∈ registry.membersOf room, home client = some room.space

def ToldIn (home : ClientId → Option Space) (space : Space) (movements : List Movement) : Prop :=
  ∀ movement ∈ movements, ∀ member ∈ movement.members, home member.client = some space

def ToldAtHome (home : ClientId → Option Space) (movements : List Movement) : Prop :=
  ∀ movement ∈ movements, ∀ member ∈ movement.members,
    home member.client = some movement.room.space

def AsksAtHome (registry : Registry) (home : ClientId → Option Space) (client : ClientId) :
    Operation → Prop
  | .requestJoin room => registry.profileOf client ≠ none → home client = some room.space
  | _ => True

variable {registry : Registry} {home : ClientId → Option Space} {client : ClientId}
  {space : Space} {room : Room} {operation : Operation}

theorem of_senderContext {identity : Identity}
    (context : registry.senderContext client space = some (identity, room)) :
    (∃ family, registry.profileOf client = some (family, .known identity)) ∧
      room ∈ registry.roomsOf client ∧ room.space = space := by
  rw [senderContext] at context
  simp only [Option.bind_eq_bind, Option.bind_eq_some_iff] at context
  rcases context with ⟨connection, found, person, known, held, first, same⟩
  simp only [Option.pure_def, Option.some.injEq, Prod.mk.injEq] at same
  rcases same with ⟨rfl, rfl⟩
  refine ⟨⟨connection.space, ?_⟩, ?_, by simpa using List.find?_some first⟩
  · rw [profileOf_of_connection _ _ found]
    cases standing : connection.standing with
    | waiting parked => simp [standing, Standing.identity?] at known
    | known identity =>
        rw [standing] at known
        cases known
        rfl
  · rw [roomsOf_of_connection _ _ found]
    exact List.mem_of_find?_eq_some first

namespace AtHome

theorem empty (home : ClientId → Option Space) : AtHome {} home where
  opened _ _ _ known := by simp [profileOf] at known
  parked _ _ _ known := by simp [profileOf] at known
  members _ _ member := by simp [membersOf, Table.getD] at member

variable (atHome : registry.AtHome home)

include atHome

theorem told (inFamily : room.space = space) :
    ∀ member ∈ registry.members room, home member.client = some space := by
  intro member present
  rw [← inFamily]
  exact atHome.members room member.client (mem_membersOf_of_mem_members present)

theorem connect (opened : home client = some space) :
    (registry.connect client space).AtHome home where
  opened other family standing known := by
    rw [profileOf_connect] at known
    split at known
    · rename_i same
      cases known
      exact same ▸ opened
    · exact atHome.opened other _ _ known
  parked other family room known := by
    rw [profileOf_connect] at known
    split at known
    · cases known
    · exact atHome.parked other family room known
  members := atHome.members

theorem act {only : Act}
    (inFamily : ∀ room, only.room? = some room → home client = some room.space) :
    (registry.act client only).1.AtHome home where
  opened other family standing known := by
    rcases of_profileOf_act known with ⟨before, found, _⟩
    exact atHome.opened other family before found
  parked other family place known := by
    rcases of_profileOf_act known with ⟨before, found, rfl | ⟨rfl, wanted⟩⟩
    · exact atHome.parked other family place found
    · have own := inFamily place wanted.symm
      exact Option.some.inj (own.symm.trans (atHome.opened other family before found))
  members place other member := by
    rcases of_mem_membersOf_act member with ⟨rfl, entered⟩ | before
    · exact inFamily place entered
    · exact atHome.members place other before

theorem follow {acts : List Act}
    (inFamily : ∀ only ∈ acts, ∀ room, only.room? = some room → home client = some room.space) :
    (registry.follow client acts).1.AtHome home := by
  induction acts generalizing registry with
  | nil => exact atHome
  | cons first rest induction =>
      rcases List.forall_mem_cons.mp inFamily with ⟨here, later⟩
      exact induction (atHome.act here) later

end AtHome

/-! ## Operations that stay in a family -/

namespace AtHome

variable (atHome : registry.AtHome home)

section Operations

variable (wellFormed : registry.WellFormed) (asks : registry.AsksAtHome home client operation)

include atHome wellFormed asks

theorem home_of_act {only : Act}
    (member : only ∈ operation.acts (registry.profileOf client) (registry.roomsOf client))
    (touched : only.room? = some room) : home client = some room.space := by
  cases concerns_of_act member touched with
  | held held => exact atHome.members room client ((wellFormed.agree client room).mp held)
  | parked parked =>
      rw [parkedRoom_eq, Option.bind_eq_some_iff] at parked
      rcases parked with ⟨⟨family, standing⟩, profile, waits⟩
      cases standing with
      | known identity => cases waits
      | waiting request =>
          cases waits
          rw [atHome.parked client family room profile]
          exact atHome.opened client family _ profile
  | requested requested =>
      subst requested
      refine asks fun unknown => ?_
      rw [unknown] at member
      cases member

theorem home_of_moved {movement : Movement}
    (moved : movement ∈ (registry.operate client operation).2) :
    home client = some movement.room.space ∧
      ∀ member ∈ movement.members, home member.client = some movement.room.space := by
  rw [wellFormed.operate_eq] at moved
  rcases of_moved moved with ⟨⟨only, member, touched⟩, told⟩
  have own := atHome.home_of_act wellFormed asks member touched
  refine ⟨own, fun member listed => ?_⟩
  rcases told member listed with same | before
  · exact same ▸ own
  · exact atHome.members movement.room member.client before

variable (operation)

theorem operate : (registry.operate client operation).1.AtHome home := by
  rw [wellFormed.operate_eq]
  exact atHome.follow fun only member room => atHome.home_of_act wellFormed asks member

theorem toldAtHome : ToldAtHome home (registry.operate client operation).2 :=
  fun _ moved => (atHome.home_of_moved wellFormed asks moved).2

theorem toldIn (inFamily : home client = some space) :
    ToldIn home space (registry.operate client operation).2 := by
  intro movement moved member listed
  rcases atHome.home_of_moved wellFormed asks moved with ⟨own, told⟩
  rw [← inFamily, own]
  exact told member listed

end Operations

end AtHome

/-! ## Registries that differ in one family -/

structure AlikeOutside (home : ClientId → Option Space) (foreign : Space)
    (left right : Registry) : Prop where
  profile : ∀ client, home client ≠ some foreign → left.profileOf client = right.profileOf client
  rooms : ∀ client, home client ≠ some foreign → left.roomsOf client = right.roomsOf client
  members : ∀ room, room.space ≠ foreign → left.membersOf room = right.membersOf room
  listeners : foreign = .page → ∀ email, left.listeners email = right.listeners email

variable {left right : Registry} {foreign : Space} {email : String}

theorem AtHome.encloses (atHome : registry.AtHome home) :
    Encloses (fun client => home client ≠ some foreign) (fun room => room.space ≠ foreign)
      registry := by
  intro room apart client member
  rw [atHome.members room client member]
  exact fun same => apart (Option.some.inj same)

theorem listeners_follow_congr (same : left.listeners email = right.listeners email)
    (client : ClientId) (acts : List Act) :
    (left.follow client acts).1.listeners email = (right.follow client acts).1.listeners email := by
  induction acts generalizing left right with
  | nil => exact same
  | cons first rest induction =>
      refine induction ?_
      cases first with
      | stand | enter => exact same
      | identify space identity => simp only [listeners_identify, same]
      | leave room => simpa only [leaveRoom_registry, listeners_removeMember] using same
      | forget standing => simp only [listeners_forget, same]

theorem listeners_follow_of_page {acts : List Act} (silent : client ∉ registry.listeners email)
    (page : ∀ space identity, .identify space identity ∈ acts → space = .page) :
    (registry.follow client acts).1.listeners email = registry.listeners email := by
  induction acts generalizing registry with
  | nil => rfl
  | cons first rest induction =>
      have here : (registry.act client first).1.listeners email = registry.listeners email := by
        cases first with
        | stand | enter => rfl
        | identify space identity =>
            cases page space identity (.head rest)
            exact (listeners_identify ..).trans (if_neg fun listens => nomatch listens.1.1)
        | leave room => rw [act, leaveRoom_registry, listeners_removeMember]
        | forget standing => rw [act, listeners_forget, filter_ne_of_not_mem silent, ite_self]
      exact (induction (here ▸ silent) fun space identity later =>
        page space identity (.tail first later)).trans here

namespace AlikeOutside

section Alike

variable (alike : AlikeOutside home foreign left right)

include alike

theorem on : AlikeOn (fun client => home client ≠ some foreign) (fun room => room.space ≠ foreign)
    left right :=
  ⟨alike.profile, alike.rooms, alike.members⟩

theorem members_eq (atHome : right.AtHome home) (outside : room.space ≠ foreign) :
    left.members room = right.members room :=
  alike.on.members_eq atHome.encloses outside

theorem connect (client : ClientId) (space : Space) :
    AlikeOutside home foreign (left.connect client space) (right.connect client space) where
  profile other outside := by rw [profileOf_connect, profileOf_connect, alike.profile other outside]
  rooms other outside := by rw [roomsOf_connect, roomsOf_connect, alike.rooms other outside]
  members := alike.members
  listeners := alike.listeners

theorem senderContext (outside : home client ≠ some foreign) (space : Space) :
    left.senderContext client space = right.senderContext client space := by
  unfold Registry.senderContext
  rw [connection_congr (alike.profile client outside) (alike.rooms client outside)]

theorem operate (operation : Operation) (atHome : right.AtHome home)
    (leftWellFormed : left.WellFormed) (wellFormed : right.WellFormed)
    (outside : home client ≠ some foreign) (asks : right.AsksAtHome home client operation) :
    AlikeOutside home foreign (left.operate client operation).1
        (right.operate client operation).1 ∧
      (left.operate client operation).2 = (right.operate client operation).2 := by
  rw [leftWellFormed.operate_eq, wellFormed.operate_eq, alike.profile client outside,
    alike.rooms client outside]
  have followed := alike.on.follow atHome.encloses outside fun only member room touched => by
    have own := atHome.home_of_act wellFormed asks member touched
    exact fun same => outside (own.trans (congrArg some same))
  refine ⟨⟨followed.1.profile, followed.1.rooms, followed.1.members, fun pages email => ?_⟩,
    followed.2⟩
  exact listeners_follow_congr (alike.listeners pages email) client _

end Alike

/-! ## What the other family does -/

theorem refl (registry : Registry) : AlikeOutside home foreign registry registry :=
  ⟨fun _ _ => rfl, fun _ _ => rfl, fun _ _ => rfl, fun _ _ => rfl⟩

theorem trans {middle : Registry} (first : AlikeOutside home foreign left middle)
    (second : AlikeOutside home foreign middle right) : AlikeOutside home foreign left right where
  profile client outside := (first.profile client outside).trans (second.profile client outside)
  rooms client outside := (first.rooms client outside).trans (second.rooms client outside)
  members room outside := (first.members room outside).trans (second.members room outside)
  listeners pages email := (first.listeners pages email).trans (second.listeners pages email)

theorem ne_of_outside {other : ClientId} (abroad : home client = some foreign)
    (outside : home other ≠ some foreign) : client ≠ other :=
  fun same => outside (same ▸ abroad)

theorem connect_foreign (abroad : home client = some foreign) (registry : Registry)
    (space : Space) : AlikeOutside home foreign (registry.connect client space) registry where
  profile other outside := by rw [profileOf_connect, if_neg (ne_of_outside abroad outside)]
  rooms other outside := by rw [roomsOf_connect, if_neg (ne_of_outside abroad outside)]
  members _ _ := rfl
  listeners _ _ := rfl

theorem operate_foreign (operation : Operation) (atHome : registry.AtHome home)
    (wellFormed : registry.WellFormed) (abroad : home client = some foreign)
    (asks : registry.AsksAtHome home client operation) :
    AlikeOutside home foreign (registry.operate client operation).1 registry := by
  rw [wellFormed.operate_eq]
  have kept : AlikeOn (fun client => home client ≠ some foreign) (fun room => room.space ≠ foreign)
      (registry.follow client
        (operation.acts (registry.profileOf client) (registry.roomsOf client))).1 registry :=
    alikeOn_follow registry (fun outside => outside abroad) fun only member room touched apart =>
      apart (Option.some.inj
        ((atHome.home_of_act wellFormed asks member touched).symm.trans abroad))
  refine ⟨kept.profile, kept.rooms, kept.members, fun pages email => ?_⟩
  subst pages
  apply listeners_follow_of_page
  · intro listening
    rcases (wellFormed.listening email client).mp listening with ⟨identity, known, _⟩
    cases (atHome.opened client .app _ known).symm.trans abroad
  · intro space identity identifies
    rcases profile_of_identify identifies with ⟨standing, profile⟩
    exact Option.some.inj ((atHome.opened client space standing profile).symm.trans abroad)

end AlikeOutside

end SharedEditing.Registry
