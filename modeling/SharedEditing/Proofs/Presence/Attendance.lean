import SharedEditing.Proofs.Gateway.Journal

/-! # Movements are a complete record

Whoever hears of every movement knows every room: who is in it, in joining order. Each
movement is told with the members that follow from the movements before it, and nobody
enters a room twice or leaves one that they are not in. -/

namespace SharedEditing

/-- The members of every room in joining order, as far as somebody has heard. -/
abbrev Attendance := Room → List ClientId

namespace Attendance

def nobody : Attendance := fun _ => []

def heed (attendance : Attendance) : Movement → Attendance
  | .joined room client _ => fun place =>
      if room = place then attendance place ++ [client] else attendance place
  | .left room client _ => fun place =>
      if room = place then (attendance place).filter (· ≠ client) else attendance place

def replay (movements : List Movement) : Attendance := movements.foldl heed nobody

def listed? (attendance : Attendance) (room : Room) : Option (List ClientId) :=
  if attendance room = [] then none else some (attendance room)

/-- A movement is possible, and is told with the members that it leads to. -/
def Fits (attendance : Attendance) : Movement → Prop
  | .joined room client members =>
      client ∉ attendance room ∧ members.map Member.client = attendance room ++ [client]
  | .left room client members =>
      client ∈ attendance room ∧
        members.map Member.client = (attendance room).filter (· ≠ client)

def Follows : Attendance → List Movement → Prop
  | _, [] => True
  | attendance, movement :: rest =>
      attendance.Fits movement ∧ Follows (attendance.heed movement) rest

variable {attendance : Attendance}

theorem follows_append {movements more : List Movement} :
    attendance.Follows (movements ++ more) ↔
      attendance.Follows movements ∧ (movements.foldl heed attendance).Follows more := by
  induction movements generalizing attendance with
  | nil => simp [Follows]
  | cons movement rest induction =>
      simp only [List.cons_append, Follows, List.foldl_cons, induction, and_assoc]

theorem Follows.fits {earlier later : List Movement} {movement : Movement}
    (follows : attendance.Follows (earlier ++ movement :: later)) :
    (earlier.foldl heed attendance).Fits movement :=
  (follows_append.mp follows).2.1

theorem exists_left_of_gone {movements : List Movement} {client : ClientId} {room : Room}
    (member : client ∈ attendance room) (gone : client ∉ movements.foldl heed attendance room) :
    ∃ members, Movement.left room client members ∈ movements := by
  induction movements generalizing attendance with
  | nil => exact False.elim (gone member)
  | cons movement rest induction =>
      by_cases stays : client ∈ attendance.heed movement room
      · rcases induction stays gone with ⟨members, left⟩
        exact ⟨members, .tail movement left⟩
      · cases movement with
        | joined place other members =>
            refine False.elim (stays ?_)
            simp only [heed]
            split
            · exact List.mem_append_left _ member
            · exact member
        | left place other members =>
            simp only [heed] at stays
            split at stays
            · rename_i same
              have own : client = other := by
                by_contra different
                exact stays (List.mem_filter.mpr ⟨member, by simpa using different⟩)
              rw [same, own]
              exact ⟨members, .head rest⟩
            · exact False.elim (stays member)

end Attendance

/-! ## Shifts are heard of -/

namespace Registry

open Attendance

variable {registry after : Registry} {attendance : Attendance} {movements : List Movement}

def AttendedBy (registry : Registry) (attendance : Attendance) : Prop :=
  ∀ room, registry.membersOf room = attendance room

theorem AttendedBy.listed?_eq (attended : registry.AttendedBy attendance)
    (wellFormed : registry.WellFormed) (room : Room) :
    registry.rooms.get? room = attendance.listed? room := by
  rw [listed?, ← attended room]
  exact Table.get?_of_occupied _ _ (wellFormed.occupied_rooms room)

/-- What a connection in no room does is not heard of, and need not be. -/
theorem AttendedBy.of_same (attended : registry.AttendedBy attendance)
    (members : ∀ room, after.membersOf room = registry.membersOf room) :
    after.AttendedBy attendance := by
  intro room
  rw [members room]
  exact attended room

theorem AttendedBy.left (attended : registry.AttendedBy attendance)
    (wellFormed : registry.WellFormed) {client : ClientId} {room : Room}
    (member : client ∈ registry.membersOf room) :
    let after := registry.removeMember client room
    after.AttendedBy (attendance.heed (.left room client (after.members room))) ∧
      attendance.Fits (.left room client (after.members room)) := by
  have shifted := wellFormed.shift (Shift.left member)
  refine ⟨fun place => ?_, ?_, ?_⟩
  · rw [membersOf_removeMember, attended place]
    rfl
  · rw [← attended room]
    exact member
  · rw [shifted.map_client_members, membersOf_removeMember, if_pos rfl, attended room]

theorem AttendedBy.entered (attended : registry.AttendedBy attendance)
    (wellFormed : registry.WellFormed) {client : ClientId} {room : Room} {space : Space}
    {identity : Identity} (known : registry.profileOf client = some (space, .known identity))
    (free : ∀ other ∈ registry.roomsOf client, other.space ≠ room.space) :
    let after := registry.addMember client room
    after.AttendedBy (attendance.heed (.joined room client (after.members room))) ∧
      attendance.Fits (.joined room client (after.members room)) := by
  have shifted := wellFormed.shift (Shift.entered known free)
  have absent : client ∉ registry.membersOf room := by
    intro member
    exact free room ((wellFormed.agree client room).mpr member) rfl
  refine ⟨fun place => ?_, ?_, ?_⟩
  · rw [membersOf_addMember]
    simp only [heed, ← attended place]
    by_cases same : room = place
    · subst same
      simp [absent]
    · simp [same]
  · rw [← attended room]
    exact absent
  · rw [shifted.map_client_members, membersOf_addMember, if_pos ⟨rfl, absent⟩, attended room]

theorem AttendedBy.shift (attended : registry.AttendedBy attendance)
    (wellFormed : registry.WellFormed) (shift : Shift registry movements after) :
    after.AttendedBy (movements.foldl heed attendance) ∧ attendance.Follows movements := by
  cases shift with
  | parked request waiting => exact ⟨attended.of_same fun _ => rfl, trivial⟩
  | identified identity waiting =>
      exact ⟨attended.of_same fun room => membersOf_identify _ _ _ _ room, trivial⟩
  | left member =>
      have heard := attended.left wellFormed member
      exact ⟨heard.1, heard.2, trivial⟩
  | entered known free =>
      have heard := attended.entered wellFormed known free
      exact ⟨heard.1, heard.2, trivial⟩
  | forgotten profile roomless =>
      exact ⟨attended.of_same fun room => membersOf_forget _ _ _ room, trivial⟩

theorem AttendedBy.shifts (attended : registry.AttendedBy attendance)
    (wellFormed : registry.WellFormed) (shifts : Shifts registry movements after) :
    after.AttendedBy (movements.foldl heed attendance) ∧ attendance.Follows movements := by
  induction shifts generalizing attendance with
  | still => exact ⟨attended, trivial⟩
  | more shift shifts induction =>
      have first := attended.shift wellFormed shift
      have rest := induction first.1 (wellFormed.shift shift)
      rw [List.foldl_append, follows_append]
      exact ⟨rest.1, first.2, rest.2⟩

end Registry

/-! ## What observers hear in a run -/

def Observers.heard (observers : Observers) (movements : List Movement) : List Movement :=
  movements.filter fun movement => (observers.of movement.room.space).isSome

theorem Observers.heard_of_installed {observers : Observers}
    (installed : ∀ space, (observers.of space).isSome) (movements : List Movement) :
    observers.heard movements = movements :=
  List.filter_eq_self.mpr fun movement _ => installed movement.room.space

namespace Journal

open GatewayEvent Attendance

def heard (journal : Journal) : List Movement :=
  journal.gateway.observers.heard journal.movements

theorem attended (observers : Observers) {events : List GatewayEvent} (fresh : FreshIds events) :
    (of observers events).gateway.registry.AttendedBy (replay (of observers events).movements) ∧
      nobody.Follows (of observers events).movements := by
  induction events using List.reverseRecOn with
  | nil => exact ⟨fun _ => rfl, trivial⟩
  | append_singleton events event induction =>
      have before := induction fresh.of_concat
      have wellFormed := wellFormed observers fresh.of_concat
      rw [of_concat]
      cases opens : event.opened? with
      | none =>
          have step := before.1.shifts wellFormed (Gateway.perform_shifts wellFormed opens)
          simp only [record, replay, List.foldl_append, follows_append]
          exact ⟨step.1, before.2, step.2⟩
      | some client =>
          cases event with
          | connect client space outbox =>
              simp only [record, Gateway.perform, List.append_nil]
              exact before
          | _ => cases opens

/-- Where both families are watched, what observers hear is a complete record of the
rooms: replayed it gives each room with its members in joining order, and each movement
is told with the members that follow from the movements before it. -/
theorem heard_is_attendance {observers : Observers}
    (installed : ∀ space, (observers.of space).isSome) {events : List GatewayEvent}
    (fresh : FreshIds events) :
    (∀ room, (of observers events).gateway.registry.rooms.get? room =
        (replay (of observers events).heard).listed? room) ∧
      ∀ earlier movement later, (of observers events).heard = earlier ++ movement :: later →
        (replay earlier).Fits movement := by
  have all : (of observers events).heard = (of observers events).movements := by
    rw [heard, of_observers]
    exact Observers.heard_of_installed installed _
  rcases attended observers fresh with ⟨attended, follows⟩
  rw [all]
  constructor
  · exact attended.listed?_eq (wellFormed observers fresh)
  · intro earlier movement later split
    rw [split] at follows
    exact follows.fits

/-- A request that waited is carried out, its connection switches, and another that is in
rooms of both families goes. -/
theorem heard_is_attendance_of_switch :
    let events : List GatewayEvent :=
      [.connect ⟨"a"⟩ .app ⟨2, [], true⟩, .connect ⟨"b"⟩ .page ⟨2, [], true⟩,
        .requestJoin ⟨"a"⟩ ⟨.app, "1"⟩, .authenticate ⟨"b"⟩ ⟨"Bob", "bob@x"⟩,
        .requestJoin ⟨"b"⟩ ⟨.app, "1"⟩, .requestJoin ⟨"b"⟩ ⟨.page, "1"⟩,
        .authenticate ⟨"a"⟩ ⟨"Ann", "ann@x"⟩, .requestJoin ⟨"a"⟩ ⟨.app, "2"⟩,
        .leave ⟨"a"⟩ ⟨.app, "1"⟩, .disconnect ⟨"b"⟩]
    let journal := of .standard events
    (∀ space, (Observers.standard.of space).isSome) ∧ FreshIds events ∧
      journal.heard.length = 7 ∧
      (∀ room, journal.gateway.registry.rooms.get? room =
        (replay journal.heard).listed? room) ∧
      ∀ earlier movement later, journal.heard = earlier ++ movement :: later →
        (replay earlier).Fits movement :=
  ⟨fun space => by cases space <;> rfl, by decide, by decide,
    heard_is_attendance (fun space => by cases space <;> rfl) (by decide)⟩

end Journal

end SharedEditing
