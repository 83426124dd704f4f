import SharedEditing.Proofs.Gateway.Families
import SharedEditing.Proofs.Gateway.Logins

/-! # Pointers

A pointer is passed on to the peers of a page connection whose person is known, each of
them once, and to nobody else. Whatever a pointer claims, it arrives with the connection
that sent it and the person who logged in there. -/

namespace SharedEditing

namespace Registry

variable {registry : Registry} {client : ClientId} {identity : Identity} {room : Room}

structure PointsIn (registry : Registry) (client : ClientId) (identity : Identity)
    (room : Room) : Prop where
  profile : registry.profileOf client = some (.page, .known identity)
  held : room ∈ registry.roomsOf client
  page : room.space = .page

theorem PointsIn.senderContext_eq (points : registry.PointsIn client identity room)
    (wellFormed : registry.WellFormed) :
    registry.senderContext client .page = some (identity, room) := by
  have first : (registry.roomsOf client).find? (fun held => held.space == .page) = some room := by
    cases found : (registry.roomsOf client).find? fun held => held.space == .page with
    | none =>
        have absent := List.find?_eq_none.mp found room points.held
        simp [points.page] at absent
    | some other =>
        have page : other.space = .page := by simpa using List.find?_some found
        rw [wellFormed.one_room client other (List.mem_of_find?_eq_some found) room points.held
          (page.trans points.page.symm)]
  rw [senderContext, registry.connection_of_profileOf client points.profile]
  simp [Standing.identity?, first]

end Registry

namespace Gateway

variable {gateway : Gateway} {client other : ClientId} {identity : Identity} {room : Room}
  {pointer : PointerEvent}

structure IsPeer (gateway : Gateway) (client : ClientId) (room : Room) (other : ClientId) :
    Prop where
  different : other ≠ client
  member : other ∈ gateway.registry.membersOf room
  accepts : gateway.outboxes.wouldAccept other = true

/-- A frame with a pointer that was passed on to exactly those who are to receive it. -/
structure ExactRelay (before : Gateway) (client : ClientId) (space : Space)
    (pointer : PointerEvent) (report : Report Unit) : Prop where
  handed : ∀ identity room, before.registry.PointsIn client identity room →
    ∀ other, before.IsPeer client room other →
      acceptedBy other report.postings = [.mousePointer (pointer.stamped identity client.text)]
  others : ∀ identity room, before.registry.PointsIn client identity room →
    ∀ other, ¬ before.IsPeer client room other → acceptedBy other report.postings = []
  /-- A connection is on one page at most. -/
  current : ∀ identity room, before.registry.PointsIn client identity room →
    ∀ person place, before.registry.PointsIn client person place →
      person = identity ∧ place = room
  silent : (∀ identity room, ¬ before.registry.PointsIn client identity room) →
    report.postings = []
  counted : space = .page →
    (before.relay client pointer).answer = acceptedCount report.postings
  registry : report.gateway.registry = before.registry
  outboxes : ∀ other outbox, before.outboxes.get? other = some outbox →
    report.gateway.outboxes.get? other =
      some { outbox with waiting := outbox.waiting ++ acceptedBy other report.postings }

theorem relay_of_stamped {message : ServerMessage}
    (stamped : stampedPointer gateway.registry client pointer = some (room, message)) :
    gateway.relay client pointer = gateway.emitExcept room client message := by
  rw [relay, stamped]

theorem relay_of_unstamped (unstamped : stampedPointer gateway.registry client pointer = none) :
    gateway.relay client pointer = ⟨0, gateway, [], []⟩ := by
  rw [relay, unstamped]

theorem stampedPointer_of_pointsIn (wellFormed : gateway.registry.WellFormed)
    (points : gateway.registry.PointsIn client identity room) (pointer : PointerEvent) :
    stampedPointer gateway.registry client pointer =
      some (room, .mousePointer (pointer.stamped identity client.text)) := by
  rw [stampedPointer, points.senderContext_eq wellFormed]
  rfl

theorem lettersToOthers_eq {registry : Registry} (wellFormed : registry.WellFormed) (room : Room)
    (sender : ClientId) (message : ServerMessage) :
    lettersToOthers registry room sender message =
      ((registry.membersOf room).filter (· ≠ sender)).map fun other => ⟨other, message⟩ := by
  rw [lettersToOthers, Presence.toAll, wellFormed.members_eq_map, List.filter_map, List.map_map]
  rfl

theorem acceptedBy_emitExcept (wellFormed : gateway.registry.WellFormed) (room : Room)
    (client other : ClientId) (message : ServerMessage) :
    acceptedBy other (gateway.emitExcept room client message).postings =
      if (other ∈ gateway.registry.membersOf room ∧ other ≠ client) ∧
        gateway.outboxes.wouldAccept other = true then [message] else [] := by
  have posted : (gateway.emitExcept room client message).postings =
      (gateway.outboxes.post (lettersToOthers gateway.registry room client message)).2 := rfl
  have distinct : ((gateway.registry.membersOf room).filter (· ≠ client)).Nodup :=
    (wellFormed.nodup_members room).filter _
  rw [posted, Outboxes.acceptedBy_post, lettersToOthers_eq wellFormed,
    messagesTo_toEach other distinct]
  simp only [List.mem_filter, decide_eq_true_eq]
  by_cases member : other ∈ gateway.registry.membersOf room ∧ other ≠ client
  · rw [if_pos member]
    simp only [Outbox.taken, Outboxes.wouldAccept, member, true_and, ne_eq, not_false_eq_true]
  · rw [if_neg member, if_neg fun both => member both.1]
    rfl

theorem exactRelay_of_silent {space : Space} {report : Report Unit}
    (nobody : ∀ identity room, ¬ gateway.registry.PointsIn client identity room)
    (counted : space = .page → (gateway.relay client pointer).answer = 0)
    (silent : report.postings = []) (same : report.gateway = gateway) :
    ExactRelay gateway client space pointer report where
  handed identity room points := False.elim (nobody identity room points)
  others identity room points := False.elim (nobody identity room points)
  current identity room points := False.elim (nobody identity room points)
  silent _ := silent
  counted page := by rw [counted page, silent]; rfl
  registry := by rw [same]
  outboxes other outbox found := by
    rw [silent, same, found]
    simp [acceptedBy]

theorem exactRelay_of_pointsIn (wellFormed : gateway.registry.WellFormed)
    (points : gateway.registry.PointsIn client identity room) :
    ExactRelay gateway client .page pointer
      (gateway.dispatch client .page (.mousePointer pointer)) := by
  have current (person : Identity) (place : Room)
      (also : gateway.registry.PointsIn client person place) :
      person = identity ∧ place = room := by
    have same := (also.senderContext_eq wellFormed).symm.trans (points.senderContext_eq wellFormed)
    simpa using same
  have relayed := relay_of_stamped (stampedPointer_of_pointsIn wellFormed points pointer)
  have accepted (other : ClientId) := acceptedBy_emitExcept wellFormed room client other
    (.mousePointer (pointer.stamped identity client.text))
  simp only [dispatch]
  rw [relayed]
  constructor
  case handed =>
    intro person place also other peer
    rcases current person place also with ⟨rfl, rfl⟩
    exact (accepted other).trans (if_pos ⟨⟨peer.member, peer.different⟩, peer.accepts⟩)
  case others =>
    intro person place also other stranger
    rcases current person place also with ⟨rfl, rfl⟩
    exact (accepted other).trans
      (if_neg fun peer => stranger ⟨peer.1.2, peer.1.1, peer.2⟩)
  case current =>
    intro person place also guest elsewhere again
    rcases current person place also with ⟨rfl, rfl⟩
    exact current guest elsewhere again
  case silent => exact fun nobody => False.elim (nobody identity room points)
  case counted =>
    intro _
    rw [relayed]
    rfl
  case registry => rfl
  case outboxes =>
    intro other outbox found
    exact Outboxes.get?_post_waiting gateway.outboxes _ other found

theorem exactRelay_dispatch (wellFormed : gateway.registry.WellFormed) {space : Space}
    (opened : ∀ family standing,
      gateway.registry.profileOf client = some (family, standing) → space = family) :
    ExactRelay gateway client space pointer
      (gateway.dispatch client space (.mousePointer pointer)) := by
  cases space with
  | app =>
      refine exactRelay_of_silent (fun identity room points => ?_) (fun page => nomatch page)
        rfl rfl
      exact nomatch opened .page _ points.profile
  | page =>
      cases stamped : stampedPointer gateway.registry client pointer with
      | none =>
          have still := relay_of_unstamped stamped
          refine exactRelay_of_silent (fun identity room points => ?_) (fun _ => ?_) ?_ ?_
          · rw [stampedPointer_of_pointsIn wellFormed points pointer] at stamped
            cases stamped
          · rw [still]
          · simp only [dispatch, still]
          · simp only [dispatch, still]
      | some pair =>
          obtain ⟨room, message⟩ := pair
          rcases of_stampedPointer stamped with ⟨identity, context, _⟩
          rcases Registry.of_senderContext context with ⟨⟨family, profile⟩, held, page⟩
          have same := opened family _ profile
          subst same
          exact exactRelay_of_pointsIn wellFormed ⟨profile, held, page⟩

/-! ## Where a pointer comes from -/

theorem change_of_posting {lookup : ThreadLookup} {arrange : List ClientId → List ClientId}
    {change : Change} {posting : Posting}
    (posted : posting ∈ (gateway.fanOut lookup arrange change).postings) :
    ∃ notice, posting.letter.message = .change notice := by
  rcases of_fannedOut posted with ⟨addressed, _, message, _⟩
  exact ⟨addressed.event.notice, message⟩

theorem stamped_of_relayed {posting : Posting}
    (relayed : posting ∈ (gateway.relay client pointer).postings) :
    ∃ identity, gateway.registry.identityOf client = some identity ∧
      posting.letter.message = .mousePointer (pointer.stamped identity client.text) := by
  rcases of_relayed relayed with ⟨identity, room, context, emitted⟩
  rcases Registry.of_senderContext context with ⟨⟨family, profile⟩, _, _⟩
  refine ⟨identity, ?_, (of_emitted emitted).1⟩
  rw [Registry.identityOf_eq, profile]
  rfl

theorem of_pointer {event : ServiceEvent} {posting : Posting} {passed : PointerEvent}
    (posted : posting ∈ (gateway.serve event).postings)
    (message : posting.letter.message = .mousePointer passed) :
    ∃ sender pointer identity, event = .frame sender .page (.mousePointer pointer) ∧
      gateway.registry.identityOf sender = some identity ∧
      passed = pointer.stamped identity sender.text := by
  rcases source_of_posting posted with answered | ⟨sender, pointer, rfl, relayed⟩ |
    ⟨lookup, arrangement, change, rfl, told⟩
  · rcases Observers.answer_of_letter answered with ⟨_, _, _, snapshot | departure⟩
    · rw [message] at snapshot
      cases snapshot
    · rw [message] at departure
      cases departure
  · rcases stamped_of_relayed relayed with ⟨identity, known, content⟩
    rw [message] at content
    cases content
    exact ⟨sender, pointer, identity, rfl, known, rfl⟩
  · rcases change_of_posting told with ⟨notice, same⟩
    rw [message] at same
    cases same

end Gateway

namespace Chronicle

open ServiceEvent

variable {observers : Observers} {events : List ServiceEvent}

/-- A pointer was sent by a connection, as the person whom its only successful login named. -/
structure Attributed (observers : Observers) (events : List ServiceEvent) (posting : Posting)
    (passed : PointerEvent) (sender : ClientId) (pointer : PointerEvent) (identity : Identity) :
    Prop where
  sent : ∃ earlier later,
    events = earlier ++ [.frame sender .page (.mousePointer pointer)] ++ later ∧
      posting ∈ ((of observers earlier).gateway.relay sender pointer).postings
  socket : passed.socketId = some sender.text
  user : passed.user = some identity
  position : passed.position = pointer.position
  attached : Attached observers events sender identity
  once : (of observers events).logins.count (sender, true) = 1

theorem exists_sent {posting : Posting} {passed : PointerEvent}
    (posted : posting ∈ (of observers events).postings)
    (message : posting.letter.message = .mousePointer passed) :
    ∃ earlier later sender pointer identity,
      events = earlier ++ [.frame sender .page (.mousePointer pointer)] ++ later ∧
      posting ∈ ((of observers earlier).gateway.relay sender pointer).postings ∧
      (of observers earlier).gateway.registry.identityOf sender = some identity ∧
      passed = pointer.stamped identity sender.text := by
  induction events using List.reverseRecOn with
  | nil => cases posted
  | append_singleton events event induction =>
      rw [of_concat] at posted
      rcases List.mem_append.mp posted with before | now
      · rcases induction before with ⟨earlier, later, sender, pointer, identity, rfl, sent⟩
        exact ⟨earlier, later ++ [event], sender, pointer, identity,
          List.append_assoc _ _ _, sent⟩
      · rcases Gateway.of_pointer now message with ⟨sender, pointer, identity, rfl, known, same⟩
        exact ⟨events, [], sender, pointer, identity, (List.append_nil _).symm, now, known, same⟩

theorem exists_attributed (fresh : FreshIds events) {posting : Posting} {passed : PointerEvent}
    (posted : posting ∈ (of observers events).postings)
    (message : posting.letter.message = .mousePointer passed) :
    ∃ sender pointer identity,
      Attributed observers events posting passed sender pointer identity := by
  rcases exists_sent posted message with
    ⟨earlier, later, sender, pointer, identity, rfl, relayed, known, rfl⟩
  have freshSoFar := fresh.sublist ((List.sublist_append_left earlier _).trans
    (List.sublist_append_left _ later))
  have attached := ((attached_of_identityOf freshSoFar known).append
    [.frame sender .page (.mousePointer pointer)]).append later
  have once := count_logins_le observers fresh sender
  have attempted := List.count_pos_iff.mpr (logins_of_attached attached)
  exact ⟨sender, pointer, identity, ⟨earlier, later, rfl, relayed⟩, rfl, rfl, rfl, attached,
    Nat.le_antisymm once attempted⟩

/-- Whatever happened at a gateway, a pointer is passed on to exactly the peers of its sender,
and every pointer that was ever offered names its sender truly. -/
theorem pointers_are_exact (observers : Observers) {events : List ServiceEvent}
    (fresh : FreshIds events) :
    let gateway := (of observers events).gateway
    (∀ client space pointer,
      (∀ family standing, gateway.registry.profileOf client = some (family, standing) →
        space = family) →
      gateway.ExactRelay client space pointer
        (gateway.dispatch client space (.mousePointer pointer))) ∧
    ∀ posting ∈ (of observers events).postings, ∀ passed,
      posting.letter.message = .mousePointer passed → ∃ sender pointer identity,
        Attributed observers events posting passed sender pointer identity :=
  ⟨fun _ _ _ opened => Gateway.exactRelay_dispatch (wellFormed observers fresh) opened,
    fun _ posted _ message => exists_attributed fresh posted message⟩

/-- Three people are on one page and a fourth is on another. One of the three has no room left
and the sender claims to be somebody else. -/
theorem pointers_are_exact_of_page :
    let outbox : Outbox := ⟨8, [], true⟩
    let ann : Identity := ⟨"Ann", "ann@x"⟩
    let claimed : PointerEvent := ⟨some ⟨"Eve", "eve@x"⟩, some "b", [("x", .number (.integer 3))]⟩
    let events : List ServiceEvent :=
      [.connect ⟨"a"⟩ .page outbox, .connect ⟨"b"⟩ .page outbox,
        .connect ⟨"c"⟩ .page ⟨0, [], true⟩, .connect ⟨"d"⟩ .page outbox,
        .login ⟨"b"⟩ (.ok ⟨"Bob", "bob@x"⟩), .login ⟨"c"⟩ (.ok ⟨"Cid", "cid@x"⟩),
        .login ⟨"d"⟩ (.ok ⟨"Dan", "dan@x"⟩), .frame ⟨"a"⟩ .page (.startEdit "1"),
        .frame ⟨"b"⟩ .page (.startEdit "1"), .frame ⟨"c"⟩ .page (.startEdit "1"),
        .frame ⟨"d"⟩ .page (.startEdit "2"), .login ⟨"a"⟩ (.ok ann)]
    let gateway := (of .standard events).gateway
    FreshIds events ∧ gateway.registry.profileOf ⟨"a"⟩ = some (.page, .known ann) ∧
      (gateway.relay ⟨"a"⟩ claimed).answer = 1 ∧
      gateway.ExactRelay ⟨"a"⟩ .page claimed
        (gateway.dispatch ⟨"a"⟩ .page (.mousePointer claimed)) := by
  intro outbox ann claimed events gateway
  have fresh : FreshIds events := by decide
  have profile : gateway.registry.profileOf ⟨"a"⟩ = some (.page, .known ann) := by decide +kernel
  refine ⟨fresh, profile, by decide +kernel, ?_⟩
  apply (pointers_are_exact .standard fresh).1
  intro family standing found
  rw [profile] at found
  cases found
  rfl

end Chronicle

end SharedEditing
