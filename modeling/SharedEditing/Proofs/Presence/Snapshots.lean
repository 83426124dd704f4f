import SharedEditing.Proofs.Gateway.Journal
import SharedEditing.Proofs.Presence.Roster

/-! # Snapshots are current

Whoever is in an application room has last been told its roster as it is now. Every
shift that changes the room tells all who are in it afterwards, and no shift of another
room tells them anything. -/

namespace SharedEditing

def ServerMessage.editors? : ServerMessage → Option OnlineEditors
  | onlineEditors editors => some editors
  | _ => none

namespace Presence

def snapshotFor? (client : ClientId) (letter : Letter) : Option OnlineEditors :=
  if letter.recipient = client then letter.message.editors? else none

def latest (letters : List Letter) (client : ClientId) : Option OnlineEditors :=
  (letters.filterMap (snapshotFor? client)).getLast?

def current (registry : Registry) (room : Room) : OnlineEditors :=
  ⟨room.resource, editors (registry.members room)⟩

/-! ## The last snapshot -/

section Latest

variable {letters : List Letter} {client : ClientId} {members : List Member}
  {snapshot : OnlineEditors}

theorem latest_append (letters more : List Letter) (client : ClientId) :
    latest (letters ++ more) client = (latest more client).or (latest letters client) := by
  unfold latest
  rw [List.filterMap_append, List.getLast?_append]

theorem latest_eq_none_iff :
    latest letters client = none ↔ ∀ letter ∈ letters, snapshotFor? client letter = none := by
  unfold latest
  rw [List.getLast?_eq_none_iff, List.filterMap_eq_nil_iff]

theorem latest_of_silent (silent : ∀ letter ∈ letters, letter.message.editors? = none) :
    latest letters client = none := by
  rw [latest_eq_none_iff]
  intro letter member
  unfold snapshotFor?
  split
  · exact silent letter member
  · rfl

theorem latest_toAll (member : client ∈ members.map Member.client) :
    latest (toAll members (.onlineEditors snapshot)) client = some snapshot := by
  cases found : latest (toAll members (.onlineEditors snapshot)) client with
  | none =>
      rcases List.mem_map.mp member with ⟨present, isMember, rfl⟩
      have missed := latest_eq_none_iff.mp found _ (List.mem_map_of_mem isMember)
      simp [snapshotFor?, ServerMessage.editors?] at missed
  | some last =>
      rcases List.mem_filterMap.mp (List.mem_of_getLast? found) with ⟨letter, sent, brings⟩
      rcases List.mem_map.mp sent with ⟨present, _, rfl⟩
      unfold snapshotFor? at brings
      split at brings
      · exact brings.symm
      · cases brings

theorem latest_toAll_of_not_mem {message : ServerMessage}
    (absent : client ∉ members.map Member.client) :
    latest (toAll members message) client = none := by
  rw [latest_eq_none_iff]
  intro letter sent
  rcases List.mem_map.mp sent with ⟨present, isMember, rfl⟩
  have other : present.client ≠ client := fun equal =>
    absent (List.mem_map.mpr ⟨present, isMember, equal⟩)
  simp [snapshotFor?, other]

end Latest

/-! ## Who is told what -/

/-- Everybody in an application room afterwards was told last what is current then, or
was told nothing, was there before, and nothing has changed. -/
def Told (registry : Registry) (letters : List Letter) (after : Registry) : Prop :=
  ∀ room, room.space = .app → ∀ client ∈ after.membersOf room,
    latest letters client = some (current after room) ∨
      latest letters client = none ∧ client ∈ registry.membersOf room ∧
        registry.members room = after.members room

namespace Told

variable {registry next after : Registry} {letters more : List Letter}

theorem trans (first : Told registry letters next) (second : Told next more after) :
    Told registry (letters ++ more) after := by
  intro room app client member
  rw [latest_append]
  rcases second room app client member with told | ⟨untold, before, same⟩
  · exact .inl (by rw [told]; rfl)
  · rw [untold, Option.none_or]
    unfold current
    rw [← same]
    exact first room app client before

/-- Where nothing is told nothing must change. -/
theorem of_same (silent : ∀ letter ∈ letters, letter.message.editors? = none)
    (membersOf : ∀ room, registry.membersOf room = after.membersOf room)
    (members : ∀ room, registry.members room = after.members room) :
    Told registry letters after := by
  intro room _ client member
  exact .inr ⟨latest_of_silent silent, membersOf room ▸ member, members room⟩

theorem refl (registry : Registry) : Told registry [] registry :=
  of_same (by simp) (fun _ => rfl) (fun _ => rfl)

theorem of_movement (wellFormed : after.WellFormed) {movement : Movement}
    (shown : movement.members = after.members movement.room)
    (membersOf : ∀ room, movement.room ≠ room → registry.membersOf room = after.membersOf room)
    (members : ∀ room, movement.room ≠ room → registry.members room = after.members room) :
    Told registry (Observers.standard.lettersOf movement) after := by
  intro room app client member
  by_cases same : movement.room = room
  · subst same
    left
    have letters : Observers.standard.lettersOf movement =
        toAll movement.members (.onlineEditors (current after movement.room)) := by
      simp only [Observers.lettersOf, app, current, shown]
      simp [Observers.of, Observers.standard, Observer.letters, shown]
    rw [letters]
    apply latest_toAll
    rw [shown, wellFormed.map_client_members]
    exact member
  · right
    refine ⟨?_, membersOf room same ▸ member, members room same⟩
    cases space : movement.room.space with
    | app =>
        -- Nobody is in two rooms of the family, so the client is not among those told.
        have absent : client ∉ movement.members.map Member.client := by
          rw [shown, wellFormed.map_client_members]
          intro also
          exact same (wellFormed.eq_of_members also member (space.trans app.symm))
        have letters : Observers.standard.lettersOf movement =
            toAll movement.members
              (.onlineEditors ⟨movement.room.resource, editors movement.members⟩) := by
          simp [Observers.lettersOf, space, Observers.of, Observers.standard, Observer.letters]
        rw [letters]
        exact latest_toAll_of_not_mem absent
    | page =>
        apply latest_of_silent
        intro letter sent
        simp only [Observers.lettersOf, space, Observers.of, Observers.standard] at sent
        cases movement with
        | joined _ _ _ => cases sent
        | left _ _ _ =>
            rcases List.mem_map.mp sent with ⟨_, _, rfl⟩
            rfl

end Told

/-! ## Shifts tell what they change -/

section Shifts

open Registry

variable {registry after : Registry} {client : ClientId} {room : Room} {movements : List Movement}

theorem Told.of_roomless (wellFormed : registry.WellFormed)
    (roomless : registry.roomsOf client = [])
    (members : ∀ room, after.membersOf room = registry.membersOf room)
    (others : ∀ other, client ≠ other → after.profileOf other = registry.profileOf other) :
    Told registry [] after := by
  apply Told.of_same
  · simp
  · intro room
    exact (members room).symm
  · intro room
    exact (wellFormed.members_of_others roomless (members room) others).symm

theorem Told.of_left (wellFormed : registry.WellFormed)
    (member : client ∈ registry.membersOf room) :
    Told registry
      (Observers.standard.lettersOf
        (.left room client ((registry.removeMember client room).members room)))
      (registry.removeMember client room) := by
  have members : ∀ place, room ≠ place →
      (registry.removeMember client room).membersOf place = registry.membersOf place := by
    intro place different
    rw [membersOf_removeMember, if_neg different]
  apply Told.of_movement (wellFormed.shift (.left member)) rfl
  · intro place different
    exact (members place different).symm
  · intro place different
    apply Eq.symm
    apply members_congr (members place different)
    intro other _
    rw [profileOf_removeMember]

theorem Told.of_entered (wellFormed : registry.WellFormed) {space : Space} {identity : Identity}
    (known : registry.profileOf client = some (space, .known identity))
    (free : ∀ other ∈ registry.roomsOf client, other.space ≠ room.space) :
    Told registry
      (Observers.standard.lettersOf
        (.joined room client ((registry.addMember client room).members room)))
      (registry.addMember client room) := by
  have members : ∀ place, room ≠ place →
      (registry.addMember client room).membersOf place = registry.membersOf place := by
    intro place different
    rw [membersOf_addMember, if_neg fun both => different both.1]
  apply Told.of_movement (wellFormed.shift (.entered known free)) rfl
  · intro place different
    exact (members place different).symm
  · intro place different
    apply Eq.symm
    apply members_congr (members place different)
    intro other _
    rw [profileOf_addMember]

theorem told_of_shift (wellFormed : registry.WellFormed)
    (shift : Shift registry movements after) :
    Told registry (Observers.standard.letters movements) after := by
  cases shift with
  | parked request waiting =>
      apply Told.of_roomless wellFormed (wellFormed.roomsOf_of_waiting waiting)
      · intro room
        rfl
      · intro other different
        rw [profileOf_withStanding, if_neg different]
  | identified identity waiting =>
      apply Told.of_roomless wellFormed (wellFormed.roomsOf_of_waiting waiting)
      · intro room
        rw [membersOf_identify]
      · intro other different
        rw [profileOf_identify, if_neg different]
  | left member =>
      simpa [Observers.letters] using Told.of_left wellFormed member
  | entered known free =>
      simpa [Observers.letters] using Told.of_entered wellFormed known free
  | forgotten profile roomless =>
      apply Told.of_roomless wellFormed roomless
      · intro room
        rw [membersOf_forget]
      · intro other different
        rw [profileOf_forget, if_neg different]

theorem told_of_shifts (wellFormed : registry.WellFormed)
    (shifts : Shifts registry movements after) :
    Told registry (Observers.standard.letters movements) after := by
  induction shifts with
  | still registry => exact Told.refl registry
  | more shift shifts induction =>
      have first := told_of_shift wellFormed shift
      have rest := induction (wellFormed.shift shift)
      rw [Observers.letters, List.flatMap_append]
      exact first.trans rest

end Shifts

end Presence

/-! ## Events tell what they change -/

/-- Only presence sends snapshots: nobody else hands one to a room. -/
def GatewayEvent.Unforged : GatewayEvent → Prop
  | emit _ _ message => message.editors? = none
  | _ => True

namespace Gateway

open Presence

variable {gateway : Gateway}

theorem map_letter_carryOut {α : Type} (gateway : Gateway) (step : Registry.Step α) :
    (gateway.carryOut step).postings.map Posting.letter =
      gateway.observers.letters step.movements :=
  gateway.outboxes.map_letter_post (gateway.observers.letters step.movements)

theorem told_of_carryOut (standard : gateway.observers = .standard)
    (wellFormed : gateway.registry.WellFormed) {α : Type} {step : Registry.Step α}
    (shifts : Registry.Shifts gateway.registry step.movements step.registry) :
    Told gateway.registry ((gateway.carryOut step).postings.map Posting.letter)
      step.registry := by
  rw [map_letter_carryOut, standard]
  exact told_of_shifts wellFormed shifts

theorem told_of_post (gateway : Gateway) (clients : List ClientId) {message : ServerMessage}
    (silent : message.editors? = none) :
    Told gateway.registry
      ((gateway.post (clients.map fun client => ⟨client, message⟩)).2.map Posting.letter)
      gateway.registry := by
  apply Told.of_same
  · intro letter sent
    have offered := gateway.outboxes.map_letter_post
      (clients.map fun client => ⟨client, message⟩)
    change letter ∈ (gateway.outboxes.post _).2.map Posting.letter at sent
    rw [offered] at sent
    rcases List.mem_map.mp sent with ⟨client, _, rfl⟩
    exact silent
  · intro room
    rfl
  · intro room
    rfl

theorem told_of_emitExcept (gateway : Gateway) (room : Room) (sender : ClientId)
    {message : ServerMessage} (silent : message.editors? = none) :
    Told gateway.registry
      ((gateway.emitExcept room sender message).postings.map Posting.letter)
      gateway.registry := by
  have told := gateway.told_of_post
    (((gateway.registry.members room).filter fun member => member.client ≠ sender).map
      Member.client) silent
  rw [List.map_map] at told
  exact told

theorem told_of_relay (gateway : Gateway) (client : ClientId) (pointer : PointerEvent) :
    Told gateway.registry ((gateway.relay client pointer).postings.map Posting.letter)
      gateway.registry := by
  unfold relay
  cases stamped : stampedPointer gateway.registry client pointer with
  | none => exact Told.refl gateway.registry
  | some addressed =>
      obtain ⟨room, message⟩ := addressed
      apply told_of_emitExcept
      rcases of_stampedPointer stamped with ⟨identity, _, rfl⟩
      rfl

theorem told_of_perform (standard : gateway.observers = .standard)
    (wellFormed : gateway.registry.WellFormed) {event : GatewayEvent}
    (unforged : event.Unforged)
    (unknown : ∀ client, event.opened? = some client → gateway.registry.profileOf client = none) :
    Told gateway.registry ((gateway.perform event).postings.map Posting.letter)
      (gateway.perform event).gateway.registry := by
  cases event with
  | connect client space outbox =>
      have roomless := gateway.registry.roomsOf_eq_nil_of_profileOf client (unknown client rfl)
      apply Told.of_roomless wellFormed roomless
      · intro room
        rfl
      · intro other different
        exact (Registry.profileOf_connect _ _ _ _).trans (if_neg different)
  | authenticate client identity =>
      exact told_of_carryOut standard wellFormed
        (Registry.authenticate_shifts wellFormed client identity)
  | requestJoin client room =>
      exact told_of_carryOut standard wellFormed
        (Registry.requestJoin_shifts wellFormed client room)
  | leave client room =>
      exact told_of_carryOut standard wellFormed (Registry.leave_shifts wellFormed client room)
  | disconnect client =>
      exact told_of_carryOut standard wellFormed (Registry.disconnect_shifts wellFormed client)
  | relay client pointer =>
      have same := gateway.relay_registry client pointer
      simp only [perform, Report.unanswered, same]
      exact gateway.told_of_relay client pointer
  | emit room sender message => exact gateway.told_of_emitExcept room sender unforged
  | deliver audience notice => exact gateway.told_of_post (targets gateway.registry audience) rfl
  | drain client => exact Told.refl gateway.registry
  | closeOutbox client => exact Told.refl gateway.registry

end Gateway

/-! ## The last snapshot of a run -/

namespace Journal

open GatewayEvent Presence

def snapshotsOf (journal : Journal) (client : ClientId) : List OnlineEditors :=
  (journal.postings.filter fun posting => posting.accepted).filterMap fun posting =>
    snapshotFor? client posting.letter

theorem told {events : List GatewayEvent} (fresh : FreshIds events)
    (unforged : ∀ event ∈ events, event.Unforged) :
    Told {} ((of .standard events).postings.map Posting.letter)
      (of .standard events).gateway.registry := by
  induction events using List.reverseRecOn with
  | nil => exact Told.refl {}
  | append_singleton events event induction =>
      have before := induction fresh.of_concat fun earlier member =>
        unforged earlier (List.mem_append_left _ member)
      have last := Gateway.told_of_perform (of_observers .standard events)
        (wellFormed .standard fresh.of_concat) (unforged event (by simp)) fun _ opens =>
          unknown_of_fresh .standard fresh opens
      rw [of_concat]
      simp only [record, List.map_append]
      exact before.trans last

/-- Of a connection that has refused nothing every snapshot was accepted. -/
theorem getLast?_snapshotsOf {journal : Journal} {client : ClientId}
    (accepted : ∀ posting ∈ journal.postings,
      posting.letter.recipient = client → posting.accepted = true) :
    (journal.snapshotsOf client).getLast? =
      latest (journal.postings.map Posting.letter) client := by
  unfold snapshotsOf latest
  rw [List.filterMap_filter, List.filterMap_map]
  congr 1
  apply List.filterMap_congr
  intro posting offered
  by_cases own : posting.letter.recipient = client
  · rw [if_pos (accepted posting offered own)]
    rfl
  · simp [snapshotFor?, own]

/-- What everybody in an application room was told last is its roster as it is now. -/
theorem snapshot_is_current {events : List GatewayEvent} (fresh : FreshIds events)
    (unforged : ∀ event ∈ events, event.Unforged) {room : Room} (app : room.space = .app)
    {client : ClientId}
    (member : client ∈ (of .standard events).gateway.registry.membersOf room)
    (accepted : ∀ posting ∈ (of .standard events).postings,
      posting.letter.recipient = client → posting.accepted = true) :
    ∃ identities users,
      ((of .standard events).gateway.registry.membersOf room).map
          (of .standard events).gateway.registry.identityOf = identities.map some ∧
        Roster identities users ∧
        ((of .standard events).snapshotsOf client).getLast? = some ⟨room.resource, users⟩ := by
  have wellFormed := wellFormed .standard fresh
  rcases wellFormed.exists_identities room with ⟨identities, known⟩
  refine ⟨identities, editors ((of .standard events).gateway.registry.members room), known, ?_, ?_⟩
  · apply roster_editors
    rw [wellFormed.map_identity_members, known]
  · rw [getLast?_snapshotsOf accepted]
    rcases told fresh unforged room app client member with last | ⟨_, before, _⟩
    · exact last
    · cases before

/-- Two connections of one person and one of another, of which one switches rooms. -/
theorem snapshot_is_current_of_switch :
    let events : List GatewayEvent :=
      [.connect ⟨"a"⟩ .app ⟨9, [], true⟩, .connect ⟨"b"⟩ .app ⟨9, [], true⟩,
        .connect ⟨"c"⟩ .app ⟨9, [], true⟩, .authenticate ⟨"a"⟩ ⟨"Ann", "ann@x"⟩,
        .requestJoin ⟨"b"⟩ ⟨.app, "1"⟩, .authenticate ⟨"b"⟩ ⟨"Bob", "bob@x"⟩,
        .requestJoin ⟨"a"⟩ ⟨.app, "1"⟩, .authenticate ⟨"c"⟩ ⟨"Anna", "ann@x"⟩,
        .requestJoin ⟨"c"⟩ ⟨.app, "1"⟩, .requestJoin ⟨"b"⟩ ⟨.app, "2"⟩]
    let journal := Journal.of .standard events
    FreshIds events ∧
      (journal.snapshotsOf ⟨"c"⟩).getLast? = some ⟨"1", [⟨"Ann", "ann@x"⟩]⟩ ∧
      ∃ identities users,
        (journal.gateway.registry.membersOf ⟨.app, "1"⟩).map journal.gateway.registry.identityOf =
            identities.map some ∧
          Roster identities users ∧
          (journal.snapshotsOf ⟨"c"⟩).getLast? = some ⟨"1", users⟩ :=
  ⟨by decide, by decide,
    snapshot_is_current (by decide) (by simp [Unforged]) rfl (by decide) (by decide)⟩

end Journal

end SharedEditing
