import SharedEditing.Proofs.Gateway.Pointers
import SharedEditing.Proofs.Presence.Attendance

/-! # Pointers underway

A pointer is passed on in two steps: first it is found out who sends it and on which page,
then it is offered to whoever else is on that page by now. Anything may happen in between, and
nobody looks again whether the sender is still there. So a pointer can arrive after the notice
that its sender has left, but only if it was underway before. -/

namespace SharedEditing

structure Passing where
  sender : ClientId
  room : Room
  message : ServerMessage

inductive TrafficEvent where
  /-- What is done in one step. -/
  | whole (event : ServiceEvent)
  /-- The sender and the page of a pointer are found out. -/
  | take (sender : ClientId) (pointer : PointerEvent)
  /-- The pointer that was taken by the event with this number is offered. -/
  | pass (number : Nat)

namespace TrafficEvent

def whole? : TrafficEvent → Option ServiceEvent
  | whole event => some event
  | _ => none

def FreshIds (events : List TrafficEvent) : Prop :=
  ServiceEvent.FreshIds (events.filterMap whole?)

instance (events : List TrafficEvent) : Decidable (FreshIds events) :=
  inferInstanceAs (Decidable (ServiceEvent.FreshIds (events.filterMap whole?)))

theorem FreshIds.sublist {events kept : List TrafficEvent} (fresh : FreshIds events)
    (sublist : kept.Sublist events) : FreshIds kept :=
  ServiceEvent.FreshIds.sublist fresh (sublist.filterMap whole?)

end TrafficEvent

/-- A gateway, what it has offered, and the pointers that are underway under the numbers of
the events by which they were taken. -/
structure Traffic where
  gateway : Gateway := {}
  postings : List Posting := []
  underway : Table Nat Passing := {}
  /-- How many events there were. -/
  count : Nat := 0

namespace Traffic

open TrafficEvent

def serve (traffic : Traffic) : TrafficEvent → Gateway.Report (Table Nat Passing)
  | .whole event => (traffic.gateway.serve event).answering traffic.underway
  | .take sender pointer =>
      match Gateway.stampedPointer traffic.gateway.registry sender pointer with
      | some (room, message) =>
          ⟨traffic.underway.set traffic.count ⟨sender, room, message⟩, traffic.gateway, [], []⟩
      | none => ⟨traffic.underway, traffic.gateway, [], []⟩
  | .pass number =>
      match traffic.underway.get? number with
      | some passing =>
          (traffic.gateway.emitExcept passing.room passing.sender passing.message).answering
            (traffic.underway.erase number)
      | none => ⟨traffic.underway, traffic.gateway, [], []⟩

def record (traffic : Traffic) (event : TrafficEvent) : Traffic where
  gateway := (traffic.serve event).gateway
  postings := traffic.postings ++ (traffic.serve event).postings
  underway := (traffic.serve event).answer
  count := traffic.count + 1

def of (observers : Observers) (events : List TrafficEvent) : Traffic :=
  events.foldl record { gateway := (Chronicle.of observers []).gateway }

theorem of_concat (observers : Observers) (events : List TrafficEvent) (event : TrafficEvent) :
    of observers (events ++ [event]) = (of observers events).record event := by
  simp [of, List.foldl_append]

theorem count_of (observers : Observers) (events : List TrafficEvent) :
    (of observers events).count = events.length := by
  induction events using List.reverseRecOn with
  | nil => rfl
  | append_singleton events event induction =>
      rw [of_concat, record, induction, List.length_append]
      rfl

/-! ## Rooms along a run -/

section Rooms

variable {observers : Observers} {events : List TrafficEvent} {traffic : Traffic}
  {client : ClientId} {room : Room}

theorem serve_registry_of_divided {event : TrafficEvent} (divided : event.whole? = none) :
    (traffic.serve event).gateway.registry = traffic.gateway.registry := by
  cases event with
  | whole event => cases divided
  | take sender pointer =>
      simp only [serve]
      cases Gateway.stampedPointer traffic.gateway.registry sender pointer <;> rfl
  | pass number =>
      simp only [serve]
      cases traffic.underway.get? number <;> rfl

theorem registry_of (observers : Observers) (events : List TrafficEvent) :
    (of observers events).gateway.registry =
      (Chronicle.of observers (events.filterMap whole?)).gateway.registry := by
  induction events using List.reverseRecOn with
  | nil => rfl
  | append_singleton events event induction =>
      rw [of_concat, List.filterMap_append, record]
      cases done : event.whole? with
      | none => simp [serve_registry_of_divided done, induction, done]
      | some step =>
          cases event with
          | whole event =>
              cases done
              simp [serve, Gateway.Report.answering, Chronicle.of_concat, Chronicle.record,
                Gateway.serve_registry, induction, whole?]
          | _ => cases done

theorem wellFormed (observers : Observers) (fresh : FreshIds events) :
    (of observers events).gateway.registry.WellFormed := by
  rw [registry_of]
  exact Chronicle.wellFormed observers fresh

theorem left_of_gone (wellFormed : traffic.gateway.registry.WellFormed) {event : TrafficEvent}
    (member : client ∈ traffic.gateway.registry.membersOf room)
    (gone : client ∉ (traffic.serve event).gateway.registry.membersOf room) :
    ∃ members, .left room client members ∈ (traffic.serve event).movements := by
  cases event with
  | whole event =>
      cases opens : event.opened? with
      | none =>
          have shifts := Gateway.serve_shifts wellFormed opens
          have heard := (Registry.AttendedBy.shifts (fun _ => rfl) wellFormed shifts).1
          simp only [serve, Gateway.Report.answering] at gone ⊢
          rw [heard room] at gone
          exact Attendance.exists_left_of_gone member gone
      | some opened =>
          cases event with
          | connect opened space outbox => exact False.elim (gone member)
          | _ => cases opens
  | _ =>
      rw [serve_registry_of_divided rfl] at gone
      exact False.elim (gone member)

def LeftDuring (observers : Observers) (earlier later : List TrafficEvent) (client : ClientId)
    (room : Room) : Prop :=
  ∃ first event rest members, later = first ++ event :: rest ∧
    .left room client members ∈ ((of observers (earlier ++ first)).serve event).movements

theorem LeftDuring.append {earlier later : List TrafficEvent}
    (left : LeftDuring observers earlier later client room) (more : List TrafficEvent) :
    LeftDuring observers earlier (later ++ more) client room := by
  rcases left with ⟨first, event, rest, members, rfl, moved⟩
  exact ⟨first, event, rest ++ more, members, by simp, moved⟩

theorem stays_or_left {earlier later : List TrafficEvent} (fresh : FreshIds (earlier ++ later))
    (member : client ∈ (of observers earlier).gateway.registry.membersOf room) :
    client ∈ (of observers (earlier ++ later)).gateway.registry.membersOf room ∨
      LeftDuring observers earlier later client room := by
  induction later using List.reverseRecOn with
  | nil => exact .inl (by simpa using member)
  | append_singleton later event induction =>
      rw [← List.append_assoc] at fresh ⊢
      have before := fresh.sublist (List.sublist_append_left (earlier ++ later) [event])
      rcases induction before with stayed | left
      · by_cases stays : client ∈
            (of observers (earlier ++ later ++ [event])).gateway.registry.membersOf room
        · exact .inl stays
        · rw [of_concat] at stays
          rcases left_of_gone (wellFormed observers before) stayed stays with ⟨members, moved⟩
          exact .inr ⟨later, event, [], members, rfl, moved⟩
      · exact .inr (left.append [event])

end Rooms

/-! ## Where a pointer comes from -/

structure TakenIn (observers : Observers) (earlier : List TrafficEvent) (pointer : PointerEvent)
    (identity : Identity) (passing : Passing) : Prop where
  context : (of observers earlier).gateway.registry.senderContext passing.sender .page =
    some (identity, passing.room)
  message : passing.message = .mousePointer (pointer.stamped identity passing.sender.text)

/-- What is done with a pointer from an event on: it is passed on at once, or it is taken, and
passed on later. -/
inductive Passes (sender : ClientId) (pointer : PointerEvent) (number : Nat) :
    List TrafficEvent → TrafficEvent → Prop where
  | atOnce : Passes sender pointer number [] (.whole (.frame sender .page (.mousePointer pointer)))
  | later (between : List TrafficEvent) :
      Passes sender pointer number (.take sender pointer :: between) (.pass number)

/-- A pointer was offered to a connection by an event, that is to somebody else on the page on
which its sender was when it was taken. The sender is there still, or has left meanwhile. -/
structure PassedOn (observers : Observers) (earlier meanwhile : List TrafficEvent)
    (event : TrafficEvent) (posting : Posting) (passed : PointerEvent) (sender : ClientId)
    (pointer : PointerEvent) (identity : Identity) (room : Room) : Prop where
  posted : posting ∈ ((of observers (earlier ++ meanwhile)).serve event).postings
  passes : Passes sender pointer earlier.length meanwhile event
  context : (of observers earlier).gateway.registry.senderContext sender .page =
    some (identity, room)
  stamped : passed = pointer.stamped identity sender.text
  page : room.space = .page
  other : posting.letter.recipient ≠ sender
  recipient : posting.letter.recipient ∈
    (of observers (earlier ++ meanwhile)).gateway.registry.membersOf room
  present : sender ∈ (of observers (earlier ++ meanwhile)).gateway.registry.membersOf room ∨
    LeftDuring observers earlier meanwhile sender room

section Sources

variable {observers : Observers} {events : List TrafficEvent}

theorem exists_takenIn {number : Nat} {passing : Passing}
    (underway : (of observers events).underway.get? number = some passing) :
    ∃ earlier between pointer identity,
      events = earlier ++ .take passing.sender pointer :: between ∧ earlier.length = number ∧
        TakenIn observers earlier pointer identity passing := by
  induction events using List.reverseRecOn with
  | nil => cases underway
  | append_singleton events event induction =>
      rw [of_concat] at underway
      have since (before : (of observers events).underway.get? number = some passing) :
          ∃ earlier between pointer identity,
            events ++ [event] = earlier ++ .take passing.sender pointer :: between ∧
              earlier.length = number ∧
                TakenIn observers earlier pointer identity passing := by
        rcases induction before with ⟨earlier, between, pointer, identity, rfl, same, taken⟩
        exact ⟨earlier, between ++ [event], pointer, identity, by simp, same, taken⟩
      cases event with
      | whole step => exact since underway
      | take sender pointer =>
          simp only [record, serve] at underway
          split at underway
          · rename_i room message stamped
            simp only [Table.get?_set] at underway
            split at underway
            · rename_i now
              cases underway
              rcases Gateway.of_stampedPointer stamped with ⟨identity, context, same⟩
              exact ⟨events, [], pointer, identity, rfl,
                (count_of observers events).symm.trans now, context, same⟩
            · exact since underway
          · exact since underway
      | pass other =>
          simp only [record, serve] at underway
          split at underway
          · simp only [Gateway.Report.answering, Table.get?_erase] at underway
            split at underway
            · cases underway
            · exact since underway
          · exact since underway

/-- With nothing in between the two steps come to a relay in one step. -/
theorem relayed_of_take_pass (sender : ClientId) (pointer : PointerEvent) :
    let divided := of observers (events ++ [.take sender pointer, .pass events.length])
    let atOnce := of observers (events ++ [.whole (.frame sender .page (.mousePointer pointer))])
    divided.gateway = atOnce.gateway ∧ divided.postings = atOnce.postings := by
  intro divided atOnce
  have taken : divided =
      ((of observers events).record (.take sender pointer)).record (.pass events.length) := by
    simp [divided, of]
  have relayed : atOnce =
      (of observers events).record (.whole (.frame sender .page (.mousePointer pointer))) :=
    of_concat ..
  rw [taken, relayed]
  cases stamped : Gateway.stampedPointer (of observers events).gateway.registry sender pointer with
  | none =>
      -- No number is used before its event.
      have unused : (of observers events).underway.get? events.length = none := by
        by_contra used
        rcases Option.ne_none_iff_exists'.mp used with ⟨passing, underway⟩
        rcases exists_takenIn underway with ⟨earlier, between, _, _, split, same, _⟩
        have longer := congrArg List.length split
        simp [same] at longer
      simp [record, serve, stamped, unused, Gateway.serve, Gateway.dispatch,
        Gateway.relay_of_unstamped stamped, Gateway.Report.answering]
  | some pair =>
      obtain ⟨room, message⟩ := pair
      simp [record, serve, stamped, count_of, Table.get?_set, Gateway.serve, Gateway.dispatch,
        Gateway.relay_of_stamped stamped, Gateway.Report.answering]

theorem passedOn_of_emitted {earlier meanwhile : List TrafficEvent} {event : TrafficEvent}
    {posting : Posting} {passed pointer : PointerEvent} {sender : ClientId} {identity : Identity}
    {room : Room} (fresh : FreshIds (earlier ++ meanwhile))
    (passes : Passes sender pointer earlier.length meanwhile event)
    (context : (of observers earlier).gateway.registry.senderContext sender .page =
      some (identity, room))
    (posted : posting ∈ ((of observers (earlier ++ meanwhile)).serve event).postings)
    (emitted : posting ∈ ((of observers (earlier ++ meanwhile)).gateway.emitExcept room sender
      (.mousePointer (pointer.stamped identity sender.text))).postings)
    (message : posting.letter.message = .mousePointer passed) :
    PassedOn observers earlier meanwhile event posting passed sender pointer identity room := by
  have before := fresh.sublist (List.sublist_append_left earlier meanwhile)
  rcases Registry.of_senderContext context with ⟨_, held, page⟩
  rcases Gateway.of_emitted emitted with ⟨content, other, member, listed, same⟩
  have began := ((wellFormed observers before).agree sender room).mp held
  constructor
  case posted => exact posted
  case passes => exact passes
  case context => exact context
  case stamped =>
    rw [message] at content
    exact ServerMessage.mousePointer.inj content
  case page => exact page
  case other => exact other
  case recipient => exact same ▸ Registry.mem_membersOf_of_mem_members listed
  case present => exact stays_or_left fresh began

theorem exists_passedOn (fresh : FreshIds events) {event : TrafficEvent} {posting : Posting}
    {passed : PointerEvent} (posted : posting ∈ ((of observers events).serve event).postings)
    (message : posting.letter.message = .mousePointer passed) :
    ∃ earlier meanwhile sender pointer identity room, events = earlier ++ meanwhile ∧
      PassedOn observers earlier meanwhile event posting passed sender pointer identity room := by
  cases event with
  | whole step =>
      rcases Gateway.of_pointer posted message with ⟨sender, pointer, _, rfl, _, _⟩
      rcases Gateway.of_relayed posted with ⟨identity, room, context, emitted⟩
      have all : events = events ++ [] := (List.append_nil events).symm
      refine ⟨events, [], sender, pointer, identity, room, all, ?_⟩
      exact passedOn_of_emitted (all ▸ fresh) .atOnce context (all ▸ posted) (all ▸ emitted)
        message
  | take sender pointer =>
      simp only [serve] at posted
      split at posted <;> cases posted
  | pass number =>
      have offered := posted
      simp only [serve] at offered
      split at offered
      · rename_i passing underway
        rcases exists_takenIn underway with
          ⟨earlier, between, pointer, identity, rfl, rfl, taken⟩
        refine ⟨earlier, .take passing.sender pointer :: between, passing.sender, pointer,
          identity, passing.room, rfl, ?_⟩
        rw [taken.message] at offered
        exact passedOn_of_emitted fresh (.later between) taken.context posted offered message
      · cases offered

end Sources

/-- Whatever happens between the two steps in which a pointer is passed on: it is offered to
others who are then on the page of its sender, and if its sender is not there then it has left
the page after the pointer was taken. -/
theorem pointers_stay_on_the_page (observers : Observers) {events : List TrafficEvent}
    (fresh : FreshIds events) :
    ∀ posting ∈ (of observers events).postings, ∀ passed,
      posting.letter.message = .mousePointer passed →
        ∃ earlier meanwhile event later sender pointer identity room,
          events = earlier ++ meanwhile ++ event :: later ∧
            PassedOn observers earlier meanwhile event posting passed sender pointer identity
              room := by
  intro posting posted passed message
  induction events using List.reverseRecOn with
  | nil => cases posted
  | append_singleton events event induction =>
      have before := fresh.sublist (List.sublist_append_left events [event])
      rw [of_concat] at posted
      rcases List.mem_append.mp posted with past | now
      · rcases induction before past with
          ⟨earlier, meanwhile, done, later, sender, pointer, identity, room, rfl, passedOn⟩
        exact ⟨earlier, meanwhile, done, later ++ [event], sender, pointer, identity, room,
          by simp, passedOn⟩
      · rcases exists_passedOn before now message with
          ⟨earlier, meanwhile, sender, pointer, identity, room, rfl, passedOn⟩
        exact ⟨earlier, meanwhile, event, [], sender, pointer, identity, room, rfl, passedOn⟩

/-- Somebody comes between the two steps of one pointer, and the sender leaves between those of
the next. -/
theorem pointers_stay_on_the_page_of_departure :
    let outbox : Outbox := ⟨8, [], true⟩
    let pointer : PointerEvent := ⟨none, none, [("x", .number (.integer 1))]⟩
    let events : List TrafficEvent :=
      [.whole (.connect ⟨"a"⟩ .page outbox), .whole (.connect ⟨"b"⟩ .page outbox),
        .whole (.login ⟨"a"⟩ (.ok ⟨"Ann", "ann@x"⟩)), .whole (.login ⟨"b"⟩ (.ok ⟨"Bob", "bob@x"⟩)),
        .whole (.frame ⟨"a"⟩ .page (.startEdit "1")), .take ⟨"a"⟩ pointer,
        .whole (.frame ⟨"b"⟩ .page (.startEdit "1")), .pass 5, .take ⟨"a"⟩ pointer,
        .whole (.frame ⟨"a"⟩ .page (.leaveEdit "1")), .pass 8]
    FreshIds events ∧ (offeredTo ⟨"b"⟩ (of .standard events).postings).length = 3 ∧
      ∀ posting ∈ (of .standard events).postings, ∀ passed,
        posting.letter.message = .mousePointer passed →
          ∃ earlier meanwhile event later sender pointer identity room,
            events = earlier ++ meanwhile ++ event :: later ∧
              PassedOn .standard earlier meanwhile event posting passed sender pointer identity
                room := by
  intro outbox pointer events
  have fresh : FreshIds events := by decide
  exact ⟨fresh, by decide +kernel, pointers_stay_on_the_page .standard fresh⟩

/-- A sender is disconnected between the two steps. Its peer is told that it has left, and then
accepts its pointer. -/
theorem pointer_after_departure :
    let outbox : Outbox := ⟨8, [], true⟩
    let pointer : PointerEvent := ⟨none, none, [("x", .number (.integer 1))]⟩
    let events : List TrafficEvent :=
      [.whole (.connect ⟨"a"⟩ .page outbox), .whole (.connect ⟨"b"⟩ .page outbox),
        .whole (.login ⟨"a"⟩ (.ok ⟨"Ann", "ann@x"⟩)), .whole (.login ⟨"b"⟩ (.ok ⟨"Bob", "bob@x"⟩)),
        .whole (.frame ⟨"a"⟩ .page (.startEdit "1")), .whole (.frame ⟨"b"⟩ .page (.startEdit "1")),
        .take ⟨"a"⟩ pointer, .whole (.disconnect ⟨"a"⟩)]
    let traffic := of .standard events
    FreshIds events ∧
      (acceptedBy ⟨"b"⟩ traffic.postings).map ServerMessage.frame =
        ["\x7b\"event\":\"collab:leave_edit\",\"data\":\"a\"\x7d"] ∧
      (acceptedBy ⟨"b"⟩ (traffic.serve (.pass 6)).postings).map ServerMessage.frame =
        ["\x7b\"event\":\"collab:mouse_pointer\",\"data\":\x7b\"user\":" ++
          "\x7b\"name\":\"Ann\",\"email\":\"ann@x\"\x7d,\"socketId\":\"a\",\"x\":1\x7d\x7d"] ∧
      ∀ room, ⟨"a"⟩ ∉ traffic.gateway.registry.membersOf room := by
  intro outbox pointer events traffic
  have fresh : FreshIds events := by decide
  refine ⟨fresh, by decide +kernel, by decide +kernel, fun room member => ?_⟩
  have gone : traffic.gateway.registry.roomsOf ⟨"a"⟩ = [] := by decide +kernel
  have held := ((wellFormed .standard fresh).agree ⟨"a"⟩ room).mpr member
  rw [gone] at held
  cases held

end Traffic

end SharedEditing
