import SharedEditing.Proofs.Presence.Attendance
import SharedEditing.Proofs.Presence.Farewells

/-! # Asking for the room one is in

Whoever asks for the room that it is in leaves it first, like any other room of the family,
and enters it again. It ends up last in the order of the room, and on a page the others are
told that it left. -/

namespace SharedEditing

theorem moved_last_iff {α : Type u} [DecidableEq α] {values : List α} {value : α}
    (distinct : values.Nodup) :
    values.filter (· ≠ value) ++ [value] = values ↔ values.getLast? = some value := by
  constructor
  · intro same
    rw [← same]
    exact List.getLast?_concat
  · intro last
    rcases List.getLast?_eq_some_iff.mp last with ⟨before, rfl⟩
    have absent : value ∉ before := fun member =>
      (List.nodup_append.mp distinct).2.2 value member value (.head []) rfl
    rw [List.filter_append, filter_ne_of_not_mem absent]
    simp

namespace Registry.WellFormed

variable {registry : Registry} {client : ClientId} {room : Room}

theorem rooms_of_family (wellFormed : registry.WellFormed)
    (member : client ∈ registry.membersOf room) :
    (registry.roomsOf client).filter (fun held => held.space = room.space) = [room] := by
  have held := (wellFormed.agree client room).mpr member
  have distinct := (wellFormed.nodup_rooms client).filter fun held => held.space = room.space
  apply List.Perm.eq_singleton
  apply (List.perm_ext_iff_of_nodup distinct (List.nodup_singleton room)).mpr
  intro other
  rw [List.mem_filter, List.mem_singleton, decide_eq_true_eq]
  constructor
  · rintro ⟨also, family⟩
    exact wellFormed.one_room client other also room held family
  · rintro rfl
    exact ⟨held, rfl⟩

theorem get?_rooms (wellFormed : registry.WellFormed) (room : Room) :
    registry.rooms.get? room = Attendance.listed? registry.membersOf room :=
  AttendedBy.listed?_eq (fun _ => rfl) wellFormed room

end Registry.WellFormed

namespace Gateway

/-- A connection is in a room and asked for it: it left and entered again. The outboxes take
of what is told as much as they have room for. -/
structure Rejoins (gateway : Gateway) (report : Report JoinAnswer) (client : ClientId)
    (room : Room) : Prop where
  answer : report.answer = .joined room
  order : report.gateway.registry.rooms.get? room =
    some ((gateway.registry.membersOf room).filter (· ≠ client) ++ [client])
  elsewhere : ∀ place, room ≠ place →
    report.gateway.registry.rooms.get? place = gateway.registry.rooms.get? place
  unchanged_iff : (∀ place, report.gateway.registry.rooms.get? place =
    gateway.registry.rooms.get? place) ↔
      (gateway.registry.membersOf room).getLast? = some client
  told : ∀ other, farewells (offeredTo other report.postings) =
    if room.space = .page ∧ other ∈ gateway.registry.membersOf room ∧ other ≠ client
    then [client.text] else []
  queued : ∀ other, acceptedBy other report.postings =
    Outbox.taken (gateway.outboxes.get? other) (offeredTo other report.postings)

theorem rejoins (gateway : Gateway) (standard : gateway.observers = .standard)
    (wellFormed : gateway.registry.WellFormed) {client : ClientId} {room : Room}
    (member : client ∈ gateway.registry.membersOf room) :
    gateway.Rejoins (gateway.requestJoin client room) client room := by
  have shifted : (gateway.requestJoin client room).gateway.registry.WellFormed :=
    wellFormed.shifts (Registry.requestJoin_shifts wellFormed client room)
  have seated (place : Room) :
      (gateway.requestJoin client room).gateway.registry.membersOf place =
        if room = place then (gateway.registry.membersOf place).filter (· ≠ client) ++ [client]
        else gateway.registry.membersOf place := by
    refine (wellFormed.membersOf_requestJoin member room place).trans ?_
    split
    · rfl
    · rename_i different
      split
      · rename_i family
        refine filter_ne_of_not_mem fun also => different ?_
        exact wellFormed.eq_of_members member also family.symm
      · rfl
  have order : (gateway.requestJoin client room).gateway.registry.rooms.get? room =
      some ((gateway.registry.membersOf room).filter (· ≠ client) ++ [client]) := by
    rw [shifted.get?_rooms, Attendance.listed?, seated, if_pos rfl, if_neg (by simp)]
  have elsewhere (place : Room) (different : room ≠ place) :
      (gateway.requestJoin client room).gateway.registry.rooms.get? place =
        gateway.registry.rooms.get? place := by
    rw [shifted.get?_rooms, wellFormed.get?_rooms, Attendance.listed?, Attendance.listed?, seated,
      if_neg different]
  have before : gateway.registry.rooms.get? room = some (gateway.registry.membersOf room) := by
    rw [wellFormed.get?_rooms, Attendance.listed?, if_neg (List.ne_nil_of_mem member)]
  have leaves : (GatewayEvent.requestJoin client room).leaver? = some client := rfl
  refine ⟨?_, order, elsewhere, ?_, fun other => ?_,
    fun other => (gateway.accepted_perform leaves other).1⟩
  · rcases wellFormed.known_member member with ⟨space, identity, known⟩
    exact congrArg Registry.Step.answer (Registry.requestJoin_of_known room known)
  · rw [← moved_last_iff (wellFormed.nodup_members room)]
    constructor
    · intro unchanged
      have same := unchanged room
      rwa [order, before, Option.some.injEq] at same
    · intro same place
      by_cases own : room = place
      · subst own
        rw [order, before, same]
      · exact elsewhere place own
  · refine (farewells_perform standard wellFormed leaves).trans ?_
    rw [Registry.exits, wellFormed.rooms_of_family member, List.flatMap_singleton]
    simp only [Registry.farewellsOf, member, true_and]

end Gateway

namespace Journal

open GatewayEvent

/-- Who is in a room and asks for it is answered that it joined. It is the last of the room
then, and if it was not before the order has changed; no other room has. The others of a page
are told that it left. -/
theorem rejoining_is_leaving_and_entering {events : List GatewayEvent} (fresh : FreshIds events)
    {client : ClientId} {room : Room}
    (member : client ∈ (of .standard events).gateway.registry.membersOf room) :
    (of .standard events).gateway.Rejoins
      ((of .standard events).gateway.requestJoin client room) client room :=
  Gateway.rejoins _ (of_observers .standard events) (wellFormed .standard fresh) member

/-- The last of an application room asks for it. -/
theorem rejoining_is_leaving_and_entering_of_last :
    let room : Room := ⟨.app, "1"⟩
    let events : List GatewayEvent :=
      [.connect ⟨"a"⟩ .app ⟨9, [], true⟩, .connect ⟨"b"⟩ .app ⟨9, [], true⟩,
        .authenticate ⟨"a"⟩ ⟨"Ann", "ann@x"⟩, .authenticate ⟨"b"⟩ ⟨"Bob", "bob@x"⟩,
        .requestJoin ⟨"a"⟩ room, .requestJoin ⟨"b"⟩ room]
    let gateway := (of .standard events).gateway
    FreshIds events ∧ gateway.registry.membersOf room = [⟨"a"⟩, ⟨"b"⟩] ∧
      gateway.Rejoins (gateway.requestJoin ⟨"b"⟩ room) ⟨"b"⟩ room := by
  intro room events gateway
  have fresh : FreshIds events := by decide
  have members : gateway.registry.membersOf room = [⟨"a"⟩, ⟨"b"⟩] := by decide +kernel
  have member : ⟨"b"⟩ ∈ gateway.registry.membersOf room := by
    rw [members]
    exact .tail _ (.head _)
  exact ⟨fresh, members, rejoining_is_leaving_and_entering fresh member⟩

/-- The first of two on a page asks for it: the order of the page is another, and the second
is told that the first left. -/
theorem rejoining_is_noticed :
    let page : Room := ⟨.page, "1"⟩
    let gateway := (of .standard
      [.connect ⟨"a"⟩ .page ⟨9, [], true⟩, .connect ⟨"b"⟩ .page ⟨9, [], true⟩,
        .authenticate ⟨"a"⟩ ⟨"Ann", "ann@x"⟩, .authenticate ⟨"b"⟩ ⟨"Bob", "bob@x"⟩,
        .requestJoin ⟨"a"⟩ page, .requestJoin ⟨"b"⟩ page]).gateway
    let report := gateway.requestJoin ⟨"a"⟩ page
    ⟨"a"⟩ ∈ gateway.registry.membersOf page ∧ gateway.registry.isAuthenticated ⟨"a"⟩ = true ∧
      gateway.registry.rooms.get? page = some [⟨"a"⟩, ⟨"b"⟩] ∧
      report.gateway.registry.rooms.get? page = some [⟨"b"⟩, ⟨"a"⟩] ∧
      farewells (acceptedBy ⟨"b"⟩ report.postings) = ["a"] := by
  decide +kernel

end Journal

end SharedEditing
