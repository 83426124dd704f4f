import SharedEditing.Proofs.Gateway.Offers

/-! # Farewells

Whoever stays on a page is told of everybody who leaves it, once, whether they left, switched
to another page or are gone. Nobody is told when somebody comes, and nobody is told in an
application room.

An operation leaves some rooms one after another, at most one of them a page. The farewells
that it has offered follow from these rooms and from who was in them before. -/

namespace SharedEditing

def ServerMessage.farewell? : ServerMessage → Option String
  | leaveEdit connection => some connection
  | _ => none

def farewells (messages : List ServerMessage) : List String :=
  messages.filterMap ServerMessage.farewell?

theorem farewells_append (messages more : List ServerMessage) :
    farewells (messages ++ more) = farewells messages ++ farewells more :=
  List.filterMap_append

/-! ## Farewells and outboxes -/

theorem Outbox.taken_none (messages : List ServerMessage) : taken none messages = [] := by
  induction messages with
  | nil => rfl
  | cons message rest induction => exact induction

theorem Outbox.taken_append (outbox : Option Outbox) (messages more : List ServerMessage) :
    taken outbox (messages ++ more) = taken outbox messages ++
      taken (outbox.map fun outbox => messages.foldl offer outbox) more := by
  induction messages generalizing outbox with
  | nil => simp [taken]
  | cons message rest induction =>
      simp only [List.cons_append, taken, induction, Option.map_map, Function.comp_def,
        List.foldl_cons]
      split <;> rfl

theorem Outbox.taken_sublist (outbox : Option Outbox) (messages : List ServerMessage) :
    (taken outbox messages).Sublist messages := by
  induction messages generalizing outbox with
  | nil => exact .slnil
  | cons message rest induction =>
      simp only [taken]
      split
      · exact (induction _).cons_cons message
      · exact (induction _).cons message

theorem farewells_taken_of_none (outbox : Option Outbox) {messages : List ServerMessage}
    (silent : farewells messages = []) : farewells (Outbox.taken outbox messages) = [] := by
  have fewer := (Outbox.taken_sublist outbox messages).filterMap ServerMessage.farewell?
  exact List.sublist_nil.mp (silent ▸ fewer)

theorem exists_split_of_farewells {messages : List ServerMessage} {connection : String}
    (one : farewells messages = [connection]) :
    ∃ ahead behind, messages = ahead ++ .leaveEdit connection :: behind ∧
      farewells ahead = [] ∧ farewells behind = [] := by
  rcases List.filterMap_eq_cons_iff.mp one with ⟨ahead, message, behind, rfl, before, said, after⟩
  refine ⟨ahead, behind, ?_, List.filterMap_eq_nil_iff.mpr before, after⟩
  cases message with
  | leaveEdit left => rw [Option.some.inj said]
  | _ => cases said

theorem farewells_taken_of_one (outbox : Option Outbox) {ahead behind : List ServerMessage}
    (connection : String) (before : farewells ahead = []) (after : farewells behind = []) :
    farewells (Outbox.taken outbox (ahead ++ .leaveEdit connection :: behind)) =
      if (outbox.map fun outbox => ahead.foldl Outbox.offer outbox).any Outbox.accepts
      then [connection] else [] := by
  rw [Outbox.taken_append, farewells_append, farewells_taken_of_none _ before, List.nil_append,
    Outbox.taken]
  split
  · exact congrArg (connection :: ·) (farewells_taken_of_none _ after)
  · exact farewells_taken_of_none _ after

/-! ## Farewells and movements -/

/-- What a movement says to a connection about departures. -/
def Movement.farewellsFor (other : ClientId) : Movement → List String
  | .joined _ _ _ => []
  | .left room client members =>
      if room.space = .page ∧ other ∈ members.map Member.client then [client.text] else []

theorem farewells_toAll (other : ClientId) {members : List Member}
    (distinct : (members.map Member.client).Nodup) (message : ServerMessage) :
    farewells (messagesTo other (Presence.toAll members message)) =
      if other ∈ members.map Member.client then message.farewell?.toList else [] := by
  have each := messagesTo_toEach other distinct message
  rw [List.map_map] at each
  rw [Presence.toAll, show (fun member : Member => (⟨member.client, message⟩ : Letter)) =
    (fun client => ⟨client, message⟩) ∘ Member.client from rfl, each]
  split
  · cases said : message.farewell? <;> simp [farewells, said]
  · rfl

theorem Observers.farewells_lettersOf (other : ClientId) {movement : Movement}
    (distinct : (movement.members.map Member.client).Nodup) :
    farewells (messagesTo other (standard.lettersOf movement)) = movement.farewellsFor other := by
  have silent (message : ServerMessage) (quiet : message.farewell? = none) :
      farewells (messagesTo other (Presence.toAll movement.members message)) = [] := by
    rw [farewells_toAll other distinct, quiet, Option.toList_none, ite_self]
  cases movement with
  | joined room client members =>
      obtain ⟨space, resource⟩ := room
      cases space with
      | app => exact silent _ rfl
      | page => rfl
  | left room client members =>
      obtain ⟨space, resource⟩ := room
      cases space with
      | app => exact silent _ rfl
      | page =>
          refine (farewells_toAll other distinct _).trans ?_
          simp only [Movement.farewellsFor, true_and]
          rfl

theorem Observers.farewells_letters (other : ClientId) {movements : List Movement}
    (distinct : ∀ movement ∈ movements, (movement.members.map Member.client).Nodup) :
    farewells (messagesTo other (standard.letters movements)) =
      movements.flatMap (Movement.farewellsFor other) := by
  induction movements with
  | nil => rfl
  | cons movement rest induction =>
      have later := induction fun moved member => distinct moved (.tail movement member)
      have first := farewells_lettersOf other (distinct movement (.head rest))
      rw [letters, List.flatMap_cons, messagesTo_append, farewells_append, first,
        List.flatMap_cons, ← later]
      rfl

namespace Registry

variable {registry after : Registry} {client other : ClientId} {room page : Room}
  {movements : List Movement}

theorem Shifts.distinct (wellFormed : registry.WellFormed)
    (shifts : Shifts registry movements after) :
    ∀ movement ∈ movements, (movement.members.map Member.client).Nodup := by
  induction shifts with
  | still => simp
  | more shift _ induction =>
      have shifted := wellFormed.shift shift
      intro movement moved
      rcases List.mem_append.mp moved with first | later
      · have listed (room : Room) := shifted.map_client_members room ▸ shifted.nodup_members room
        cases shift with
        | left | entered =>
            rcases List.mem_singleton.mp first with rfl
            exact listed _
        | _ => cases first
      · exact induction shifted movement later

/-! ## The rooms that are left -/

def farewellsOf (registry : Registry) (client other : ClientId) (room : Room) : List String :=
  if room.space = .page ∧ client ∈ registry.membersOf room ∧ other ∈ registry.membersOf room ∧
    other ≠ client
  then [client.text] else []

theorem farewellsOf_app (app : room.space = .app) : registry.farewellsOf client other room = [] :=
  if_neg (by simp [app])

theorem farewellsOf_of_absent (absent : client ∉ registry.membersOf room) :
    registry.farewellsOf client other room = [] :=
  if_neg fun both => absent both.2.1

theorem membersOf_leaveRooms (registry : Registry) (client : ClientId) (rooms : List Room)
    (place : Room) :
    (registry.leaveRooms client rooms).1.membersOf place =
      if place ∈ rooms then (registry.membersOf place).filter (· ≠ client)
      else registry.membersOf place := by
  induction rooms generalizing registry with
  | nil => rfl
  | cons room rest induction =>
      simp only [leaveRooms, induction, leaveRoom_registry, membersOf_removeMember,
        List.mem_cons]
      by_cases same : room = place
      · simp [same]
      · simp [same, Ne.symm same]

theorem membersOf_withdraw (registry : Registry) (client : ClientId) (room place : Room) :
    (registry.withdraw client room).membersOf place = registry.membersOf place := by
  unfold withdraw
  split <;> rfl

theorem farewells_leaveRoom (wellFormed : registry.WellFormed) (client other : ClientId)
    (room : Room) :
    (registry.leaveRoom client room).2.flatMap (Movement.farewellsFor other) =
      registry.farewellsOf client other room := by
  unfold leaveRoom
  split
  · rename_i member
    have shifted := wellFormed.shift (Shift.left member)
    simp only [List.flatMap_cons, List.flatMap_nil, List.append_nil, Movement.farewellsFor,
      shifted.map_client_members, membersOf_removeMember, if_true, List.mem_filter,
      decide_eq_true_eq, farewellsOf, member, true_and]
  · rename_i absent
    rw [farewellsOf_of_absent absent]
    rfl

theorem farewells_leaveRooms (wellFormed : registry.WellFormed) (client other : ClientId)
    {rooms : List Room} (distinct : rooms.Nodup) :
    (registry.leaveRooms client rooms).2.flatMap (Movement.farewellsFor other) =
      rooms.flatMap (registry.farewellsOf client other) := by
  induction rooms generalizing registry with
  | nil => rfl
  | cons room rest induction =>
      rw [List.nodup_cons] at distinct
      have shifted := wellFormed.shifts (leaveRoom_shifts wellFormed client room)
      have kept : ∀ place ∈ rest,
          (registry.leaveRoom client room).1.farewellsOf client other place =
            registry.farewellsOf client other place := by
        intro place member
        have different : room ≠ place := fun same => distinct.1 (same ▸ member)
        simp only [farewellsOf, leaveRoom_registry, membersOf_removeMember, if_neg different]
      simp only [leaveRooms]
      rw [List.flatMap_append, farewells_leaveRoom wellFormed, induction shifted distinct.2,
        List.flatMap_cons, List.flatMap_congr kept]

theorem farewells_joinExclusive (wellFormed : registry.WellFormed) (client other : ClientId)
    (room : Room) :
    (registry.joinExclusive client room).2.flatMap (Movement.farewellsFor other) =
      ((registry.roomsOf client).filter fun held => held.space = room.space).flatMap
        (registry.farewellsOf client other) := by
  rw [joinExclusive_eq, List.flatMap_append,
    farewells_leaveRooms wellFormed client other ((wellFormed.nodup_rooms client).filter _)]
  exact List.append_nil _

/-- The rooms that an event takes a connection out of, if it is in them. -/
def exits (registry : Registry) : GatewayEvent → List Room
  | .requestJoin client room =>
      (registry.roomsOf client).filter fun held => held.space = room.space
  | .leave _ room => [room]
  | .disconnect client => registry.roomsOf client
  | _ => []

theorem WellFormed.farewells_authenticate (wellFormed : registry.WellFormed)
    (client other : ClientId) (identity : Identity) :
    (registry.authenticate client identity).movements.flatMap
      (Movement.farewellsFor other) = [] := by
  cases profile : registry.profileOf client with
  | none => rw [authenticate_of_unknown identity profile]; rfl
  | some pair =>
      obtain ⟨space, standing⟩ := pair
      cases standing with
      | known present => rw [authenticate_of_known identity profile]; rfl
      | waiting parked =>
          cases parked with
          | none => rw [authenticate_of_unparked identity profile]; rfl
          | some room =>
              -- Whoever waits is in no room that it could leave.
              have identified := wellFormed.shift (.identified identity profile)
              rw [authenticate_of_parked identity profile]
              simp only [farewells_joinExclusive identified, roomsOf_identify,
                wellFormed.roomsOf_of_waiting profile, List.filter_nil, List.flatMap_nil]

theorem WellFormed.farewells_requestJoin (wellFormed : registry.WellFormed)
    (client other : ClientId) (room : Room) :
    (registry.requestJoin client room).movements.flatMap (Movement.farewellsFor other) =
      ((registry.roomsOf client).filter fun held => held.space = room.space).flatMap
        (registry.farewellsOf client other) := by
  have roomless (roomless : registry.roomsOf client = []) :
      ((registry.roomsOf client).filter fun held => held.space = room.space).flatMap
        (registry.farewellsOf client other) = [] := by
    rw [roomless]
    rfl
  cases profile : registry.profileOf client with
  | none =>
      rw [requestJoin_of_unknown room profile,
        roomless (registry.roomsOf_eq_nil_of_profileOf client profile)]
      rfl
  | some pair =>
      obtain ⟨space, standing⟩ := pair
      cases standing with
      | waiting parked =>
          rw [requestJoin_of_waiting room profile, roomless (wellFormed.roomsOf_of_waiting profile)]
          rfl
      | known identity =>
          rw [requestJoin_of_known room profile]
          exact farewells_joinExclusive wellFormed client other room

theorem WellFormed.farewells_leave (wellFormed : registry.WellFormed) (client other : ClientId)
    (room : Room) :
    (registry.leave client room).movements.flatMap (Movement.farewellsFor other) =
      registry.farewellsOf client other room := by
  have withdrawn := wellFormed.shifts (registry.withdraw_shifts client room)
  refine (farewells_leaveRoom withdrawn client other room).trans ?_
  simp only [farewellsOf, membersOf_withdraw]

theorem WellFormed.farewells_disconnect (wellFormed : registry.WellFormed)
    (client other : ClientId) :
    (registry.disconnect client).movements.flatMap (Movement.farewellsFor other) =
      (registry.roomsOf client).flatMap (registry.farewellsOf client other) := by
  cases profile : registry.profileOf client with
  | none =>
      rw [disconnect_of_unknown profile, registry.roomsOf_eq_nil_of_profileOf client profile]
      rfl
  | some pair =>
      rw [disconnect_of_profileOf profile]
      exact farewells_leaveRooms wellFormed client other (wellFormed.nodup_rooms client)

theorem WellFormed.flatMap_farewellsOf (wellFormed : registry.WellFormed)
    (isPage : page.space = .page) (member : client ∈ registry.membersOf page) {rooms : List Room}
    (distinct : rooms.Nodup) :
    rooms.flatMap (registry.farewellsOf client other) =
      if page ∈ rooms then registry.farewellsOf client other page else [] := by
  have elsewhere (place : Room) (different : page ≠ place) :
      registry.farewellsOf client other place = [] := by
    refine if_neg fun both => different ?_
    exact wellFormed.eq_of_members member both.2.1 (isPage.trans both.1.symm)
  induction rooms with
  | nil => rfl
  | cons place rest induction =>
      rw [List.nodup_cons] at distinct
      rw [List.flatMap_cons, induction distinct.2]
      by_cases same : page = place
      · subst same
        simp [distinct.1]
      · simp [same, elsewhere place same]

theorem WellFormed.membersOf_disconnect (wellFormed : registry.WellFormed) (client : ClientId)
    (place : Room) :
    (registry.disconnect client).registry.membersOf place =
      (registry.membersOf place).filter (· ≠ client) := by
  have roomless (absent : place ∉ registry.roomsOf client) :
      (registry.membersOf place).filter (· ≠ client) = registry.membersOf place :=
    filter_ne_of_not_mem fun member => absent ((wellFormed.agree client place).mpr member)
  cases profile : registry.profileOf client with
  | none =>
      rw [disconnect_of_unknown profile, roomless]
      simp [registry.roomsOf_eq_nil_of_profileOf client profile]
  | some pair =>
      rw [disconnect_of_profileOf profile]
      simp only [membersOf_forget, membersOf_leaveRooms]
      split
      · rfl
      · rename_i absent
        exact (roomless absent).symm

theorem membersOf_leave (registry : Registry) (client : ClientId) (room : Room) :
    (registry.leave client room).registry.membersOf room =
      (registry.membersOf room).filter (· ≠ client) := by
  simp only [leave, leaveRoom_registry, membersOf_removeMember, if_true, membersOf_withdraw]

theorem WellFormed.membersOf_requestJoin (wellFormed : registry.WellFormed)
    (member : client ∈ registry.membersOf room) (wanted place : Room) :
    (registry.requestJoin client wanted).registry.membersOf place =
      if wanted = place then (registry.membersOf place).filter (· ≠ client) ++ [client]
      else if place.space = wanted.space then (registry.membersOf place).filter (· ≠ client)
      else registry.membersOf place := by
  rcases wellFormed.known_member member with ⟨space, identity, known⟩
  have held : place ∈ (registry.roomsOf client).filter (fun other => other.space = wanted.space) ↔
      client ∈ registry.membersOf place ∧ place.space = wanted.space := by
    rw [List.mem_filter, wellFormed.agree, decide_eq_true_eq]
  have left : (registry.leaveRooms client
      ((registry.roomsOf client).filter fun other => other.space = wanted.space)).1.membersOf
        place =
        if place.space = wanted.space then (registry.membersOf place).filter (· ≠ client)
        else registry.membersOf place := by
    rw [membersOf_leaveRooms]
    by_cases family : place.space = wanted.space
    · rw [if_pos family]
      split
      · rfl
      · rename_i unheld
        exact (filter_ne_of_not_mem fun present => unheld (held.mpr ⟨present, family⟩)).symm
    · rw [if_neg family, if_neg fun both => family (held.mp both).2]
  rw [requestJoin_of_known wanted known, joinExclusive_eq]
  simp only [enterRoom, membersOf_addMember, left]
  by_cases same : wanted = place
  · subst same
    simp
  · simp [same]

end Registry

/-! ## Who says farewell when -/

namespace GatewayEvent

def leaver? : GatewayEvent → Option ClientId
  | authenticate client _ => some client
  | requestJoin client _ => some client
  | leave client _ => some client
  | disconnect client => some client
  | _ => none

/-- An event takes a connection out of a page for good. -/
inductive Departs (client : ClientId) (page : Room) : GatewayEvent → Prop where
  | left : Departs client page (.leave client page)
  | gone : Departs client page (.disconnect client)
  | switched {other : Room} (isPage : other.space = .page) (different : other ≠ page) :
      Departs client page (.requestJoin client other)

end GatewayEvent

inductive Registry.Stays (registry : Registry) : GatewayEvent → Prop where
  | entered {client : ClientId} {page : Room} (isPage : page.space = .page)
      (pageless : ∀ held ∈ registry.roomsOf client, held.space ≠ .page) :
      Stays registry (.requestJoin client page)
  | identified {client : ClientId} {identity : Identity} :
      Stays registry (.authenticate client identity)
  | absent {client : ClientId} {page : Room} (absent : client ∉ registry.membersOf page) :
      Stays registry (.leave client page)
  | enteredApp {client : ClientId} {room : Room} (app : room.space = .app) :
      Stays registry (.requestJoin client room)
  | leftApp {client : ClientId} {room : Room} (app : room.space = .app) :
      Stays registry (.leave client room)

namespace Gateway

variable {gateway : Gateway} {event : GatewayEvent} {client other : ClientId} {page : Room}

theorem farewells_carryOut (standard : gateway.observers = .standard)
    (wellFormed : gateway.registry.WellFormed) {α : Type} {step : Registry.Step α}
    (shifts : Registry.Shifts gateway.registry step.movements step.registry) :
    farewells (offeredTo other (gateway.carryOut step).postings) =
      step.movements.flatMap (Movement.farewellsFor other) := by
  rw [← Observers.farewells_letters other (shifts.distinct wellFormed), ← standard]
  exact congrArg (fun letters => farewells (messagesTo other letters))
    (gateway.outboxes.map_letter_post _)

theorem farewells_perform (standard : gateway.observers = .standard)
    (wellFormed : gateway.registry.WellFormed) (leaves : event.leaver? = some client) :
    farewells (offeredTo other (gateway.perform event).postings) =
      (gateway.registry.exits event).flatMap (gateway.registry.farewellsOf client other) := by
  cases event with
  | authenticate known identity =>
      cases leaves
      exact (farewells_carryOut standard wellFormed
        (Registry.authenticate_shifts wellFormed client identity)).trans
          (wellFormed.farewells_authenticate client other identity)
  | requestJoin asking room =>
      cases leaves
      exact (farewells_carryOut standard wellFormed
        (Registry.requestJoin_shifts wellFormed client room)).trans
          (wellFormed.farewells_requestJoin client other room)
  | leave leaving room =>
      cases leaves
      refine (farewells_carryOut standard wellFormed
        (Registry.leave_shifts wellFormed client room)).trans ?_
      rw [wellFormed.farewells_leave client other room]
      exact (List.append_nil _).symm
  | disconnect gone =>
      cases leaves
      exact (farewells_carryOut standard wellFormed
        (Registry.disconnect_shifts wellFormed client)).trans
          (wellFormed.farewells_disconnect client other)
  | _ => cases leaves

theorem farewells_of_departs (standard : gateway.observers = .standard)
    (wellFormed : gateway.registry.WellFormed) (isPage : page.space = .page)
    (member : client ∈ gateway.registry.membersOf page) (departs : event.Departs client page) :
    farewells (offeredTo other (gateway.perform event).postings) =
      gateway.registry.farewellsOf client other page := by
  have held := (wellFormed.agree client page).mpr member
  have distinct := wellFormed.nodup_rooms client
  have leaves : event.leaver? = some client := by cases departs <;> rfl
  rw [farewells_perform standard wellFormed leaves]
  cases departs with
  | left => exact List.append_nil _
  | gone => rw [Registry.exits, wellFormed.flatMap_farewellsOf isPage member distinct, if_pos held]
  | switched same different =>
      rw [Registry.exits, wellFormed.flatMap_farewellsOf isPage member (distinct.filter _), if_pos]
      exact List.mem_filter.mpr ⟨held, by simp [isPage, same]⟩

theorem membersOf_of_departs (wellFormed : gateway.registry.WellFormed)
    (isPage : page.space = .page) (member : client ∈ gateway.registry.membersOf page)
    (departs : event.Departs client page) :
    (gateway.perform event).gateway.registry.membersOf page =
      (gateway.registry.membersOf page).filter (· ≠ client) := by
  cases departs with
  | left => exact gateway.registry.membersOf_leave client page
  | gone => exact wellFormed.membersOf_disconnect client page
  | switched same different =>
      refine (wellFormed.membersOf_requestJoin member _ page).trans ?_
      rw [if_neg different, if_pos (isPage.trans same.symm)]

theorem farewells_of_stays (standard : gateway.observers = .standard)
    (wellFormed : gateway.registry.WellFormed) (stays : gateway.registry.Stays event) :
    farewells (offeredTo other (gateway.perform event).postings) = [] := by
  have quiet {client : ClientId} (leaves : event.leaver? = some client)
      (silent : ∀ room ∈ gateway.registry.exits event,
        gateway.registry.farewellsOf client other room = []) :
      farewells (offeredTo other (gateway.perform event).postings) = [] := by
    rw [farewells_perform standard wellFormed leaves]
    exact List.flatMap_eq_nil_iff.mpr silent
  cases stays with
  | entered isPage pageless =>
      refine quiet rfl fun room left => ?_
      rcases List.mem_filter.mp left with ⟨held, family⟩
      exact absurd ((of_decide_eq_true family).trans isPage) (pageless room held)
  | identified => exact quiet rfl fun room left => nomatch left
  | absent absent =>
      refine quiet rfl fun room left => ?_
      rw [List.mem_singleton.mp left]
      exact Registry.farewellsOf_of_absent absent
  | enteredApp app =>
      refine quiet rfl fun room left => Registry.farewellsOf_app ?_
      exact (of_decide_eq_true (List.mem_filter.mp left).2).trans app
  | leftApp app =>
      refine quiet rfl fun room left => Registry.farewellsOf_app ?_
      rw [List.mem_singleton.mp left]
      exact app

/-! ## Handing over -/

theorem accepted_perform (gateway : Gateway) (leaves : event.leaver? = some client)
    (other : ClientId) :
    acceptedBy other (gateway.perform event).postings =
        Outbox.taken (gateway.outboxes.get? other)
          (offeredTo other (gateway.perform event).postings) ∧
      (gateway.perform event).gateway.waiting other =
        gateway.waiting other ++ acceptedBy other (gateway.perform event).postings := by
  have posted : ∃ letters,
      (gateway.perform event).gateway.outboxes = (gateway.outboxes.post letters).1 ∧
        (gateway.perform event).postings = (gateway.outboxes.post letters).2 := by
    cases event with
    | authenticate | requestJoin | leave | disconnect =>
        exact ⟨_, rfl, rfl⟩
    | _ => cases leaves
  rcases posted with ⟨letters, outboxes, postings⟩
  rw [offeredTo, waiting, waiting, postings, outboxes, gateway.outboxes.map_letter_post]
  have taken := gateway.outboxes.acceptedBy_post letters other
  refine ⟨taken, ?_⟩
  cases found : gateway.outboxes.get? other with
  | none =>
      rw [taken, found, Outbox.taken_none, gateway.outboxes.get?_post, found]
      rfl
  | some outbox =>
      rw [gateway.outboxes.get?_post_waiting letters other found]
      rfl

/-- A connection is out of a page. Whoever remains there is told so once, and is handed it if
its outbox still accepts by then. Nobody else is told of any departure. -/
structure SaysFarewell (gateway : Gateway) (report : Report Unit) (client : ClientId)
    (page : Room) : Prop where
  gone : report.gateway.registry.membersOf page =
    (gateway.registry.membersOf page).filter (· ≠ client)
  remaining : ∀ member ∈ report.gateway.registry.membersOf page, ∃ ahead behind,
    offeredTo member report.postings = ahead ++ .leaveEdit client.text :: behind ∧
      farewells ahead = [] ∧ farewells behind = [] ∧
      farewells (acceptedBy member report.postings) =
        if ((gateway.outboxes.get? member).map fun outbox =>
          ahead.foldl Outbox.offer outbox).any Outbox.accepts
        then [client.text] else []
  others : ∀ other ∉ report.gateway.registry.membersOf page,
    farewells (offeredTo other report.postings) = []
  handed : ∀ other, report.gateway.waiting other =
    gateway.waiting other ++ acceptedBy other report.postings

theorem says_farewell_of_departs (standard : gateway.observers = .standard)
    (wellFormed : gateway.registry.WellFormed) (isPage : page.space = .page)
    (member : client ∈ gateway.registry.membersOf page) (departs : event.Departs client page) :
    gateway.SaysFarewell (gateway.perform event) client page := by
  have leaves : event.leaver? = some client := by cases departs <;> rfl
  have gone := membersOf_of_departs wellFormed isPage member departs
  have offered (other : ClientId) :
      farewells (offeredTo other (gateway.perform event).postings) =
        if other ∈ (gateway.perform event).gateway.registry.membersOf page then [client.text]
        else [] := by
    rw [farewells_of_departs standard wellFormed isPage member departs, gone]
    simp only [Registry.farewellsOf, isPage, member, true_and, List.mem_filter, decide_eq_true_eq]
  refine ⟨gone, fun other remains => ?_, fun other absent => ?_, fun other => ?_⟩
  · have one := offered other
    rw [if_pos remains] at one
    rcases exists_split_of_farewells one with ⟨ahead, behind, split, before, after⟩
    refine ⟨ahead, behind, split, before, after, ?_⟩
    rw [(gateway.accepted_perform leaves other).1, split]
    exact farewells_taken_of_one _ client.text before after
  · rw [offered other, if_neg absent]
  · exact (gateway.accepted_perform leaves other).2

end Gateway

/-! ## In every run -/

namespace Journal

open GatewayEvent

/-- Whenever a connection leaves a page for good, those who remain are told so once, as far as
their outboxes accept, and nobody else is told of a departure. Nobody is told of one when
somebody comes to a page from none, becomes known, leaves a room it is not in, or moves among
applications. -/
theorem farewells_are_exact {events : List GatewayEvent} (fresh : FreshIds events)
    (event : GatewayEvent) :
    let gateway := (of .standard events).gateway
    (∀ client page, page.space = .page → client ∈ gateway.registry.membersOf page →
      event.Departs client page → gateway.SaysFarewell (gateway.perform event) client page) ∧
      (gateway.registry.Stays event →
        ∀ other, farewells (offeredTo other (gateway.perform event).postings) = []) := by
  intro gateway
  have standard := of_observers .standard events
  have wellFormed := wellFormed .standard fresh
  exact ⟨fun client page => Gateway.says_farewell_of_departs standard wellFormed,
    fun stays other => Gateway.farewells_of_stays standard wellFormed stays⟩

/-- Somebody who shares an application and a page with one peer, and the page with another
whose outbox is full, goes. The first peer is told of the application before the page. Another
room is left by somebody who is not in it. -/
theorem farewells_are_exact_of_full_outbox :
    let page : Room := ⟨.page, "7"⟩
    let events : List GatewayEvent :=
      [.connect ⟨"a"⟩ .app ⟨9, [], true⟩, .connect ⟨"b"⟩ .page ⟨9, [], true⟩,
        .connect ⟨"c"⟩ .page ⟨1, [.leaveEdit "x"], true⟩,
        .authenticate ⟨"a"⟩ ⟨"Ann", "ann@x"⟩, .authenticate ⟨"b"⟩ ⟨"Bob", "bob@x"⟩,
        .authenticate ⟨"c"⟩ ⟨"Cid", "cid@x"⟩, .requestJoin ⟨"a"⟩ ⟨.app, "1"⟩,
        .requestJoin ⟨"b"⟩ ⟨.app, "1"⟩, .requestJoin ⟨"a"⟩ page, .requestJoin ⟨"b"⟩ page,
        .requestJoin ⟨"c"⟩ page]
    let gateway := (of .standard events).gateway
    let report := gateway.perform (.disconnect ⟨"a"⟩)
    FreshIds events ∧ gateway.registry.membersOf page = [⟨"a"⟩, ⟨"b"⟩, ⟨"c"⟩] ∧
      gateway.SaysFarewell report ⟨"a"⟩ page ∧
      farewells (acceptedBy ⟨"b"⟩ report.postings) = ["a"] ∧
      (offeredTo ⟨"b"⟩ report.postings).length = 2 ∧
      farewells (acceptedBy ⟨"c"⟩ report.postings) = [] ∧
      ∀ other, farewells (offeredTo other
        (gateway.perform (.leave ⟨"a"⟩ ⟨.page, "8"⟩)).postings) = [] := by
  intro page events gateway report
  have fresh : FreshIds events := by decide
  have members : gateway.registry.membersOf page = [⟨"a"⟩, ⟨"b"⟩, ⟨"c"⟩] := by decide +kernel
  have member : ⟨"a"⟩ ∈ gateway.registry.membersOf page := by rw [members]; exact .head _
  have absent : ⟨"a"⟩ ∉ gateway.registry.membersOf ⟨.page, "8"⟩ := by decide +kernel
  exact ⟨fresh, members,
    (farewells_are_exact fresh (.disconnect ⟨"a"⟩)).1 ⟨"a"⟩ page rfl member .gone,
    by decide +kernel, by decide +kernel, by decide +kernel,
    (farewells_are_exact fresh (.leave ⟨"a"⟩ ⟨.page, "8"⟩)).2 (.absent absent)⟩

end Journal

end SharedEditing
