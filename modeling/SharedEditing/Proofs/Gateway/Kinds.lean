import SharedEditing.Proofs.Gateway.Families

/-! # Each family has its own messages

Applications are sent lists of editors and changes, pages are sent departures and pointers.
Who has connections in both families is sent the one on the one and the other on the other:
a movement is told in the family of its room, and everybody in a room is of its family. -/

namespace SharedEditing

/-- The family that a message is meant for. -/
def ServerMessage.space : ServerMessage → Space
  | onlineEditors _ => .app
  | leaveEdit _ => .page
  | mousePointer _ => .page
  | change _ => .app

theorem Observers.space_of_standard {movements : List Movement} {letter : Letter}
    (sent : letter ∈ standard.letters movements) :
    ∃ movement ∈ movements, (∃ member ∈ movement.members, member.client = letter.recipient) ∧
      letter.message.space = movement.room.space := by
  rcases List.mem_flatMap.mp sent with ⟨movement, moved, answered⟩
  refine ⟨movement, moved, ?_⟩
  have addressed (message : ServerMessage) (kind : message.space = movement.room.space)
      (sent : letter ∈ Presence.toAll movement.members message) :
      (∃ member ∈ movement.members, member.client = letter.recipient) ∧
        letter.message.space = movement.room.space := by
    rcases List.mem_map.mp sent with ⟨member, present, rfl⟩
    exact ⟨⟨member, present, rfl⟩, kind⟩
  cases movement with
  | joined room client members =>
      obtain ⟨space, resource⟩ := room
      cases space with
      | app => exact addressed _ rfl answered
      | page => cases answered
  | left room client members =>
      obtain ⟨space, resource⟩ := room
      cases space with
      | app => exact addressed _ rfl answered
      | page => exact addressed _ rfl answered

/-! ## What an event has offered -/

namespace Gateway

open Registry ServiceEvent

variable {home : ClientId → Option Space} {gateway : Gateway} {event : ServiceEvent}

theorem toldAtHome_serve (wellFormed : gateway.registry.WellFormed)
    (atHome : gateway.registry.AtHome home) (keeps : event.KeepsTo home) :
    ToldAtHome home (gateway.serve event).movements := by
  rw [serve_movements]
  cases event with
  | login client found =>
      cases found with
      | error error => exact fun _ moved => nomatch moved
      | ok identity => exact atHome.toldAtHome (.authenticate identity) wellFormed trivial
  | frame client space message =>
      cases message with
      | startEdit resource =>
          exact atHome.toldAtHome (.requestJoin ⟨space, resource⟩) wellFormed
            (asksAtHome atHome keeps resource)
      | leaveEdit resource => exact atHome.toldAtHome (.leave ⟨space, resource⟩) wellFormed trivial
      | mousePointer pointer => exact fun _ moved => nomatch moved
  | disconnect client => exact atHome.toldAtHome .disconnect wellFormed trivial
  | _ => exact fun _ moved => nomatch moved

theorem page_of_relayed (atHome : gateway.registry.AtHome home) {sender : ClientId}
    {pointer : PointerEvent} {posting : Posting}
    (relayed : posting ∈ (gateway.relay sender pointer).postings) :
    home posting.letter.recipient = some .page ∧ posting.letter.message.space = .page := by
  rcases of_relayed relayed with ⟨identity, room, context, emitted⟩
  rcases of_senderContext context with ⟨_, _, page⟩
  rcases of_emitted emitted with ⟨message, _, member, listed, same⟩
  rw [← same, message]
  exact ⟨atHome.told page member listed, rfl⟩

theorem app_of_fannedOut (wellFormed : gateway.registry.WellFormed)
    (atHome : gateway.registry.AtHome home) {lookup : ThreadLookup} {arrangement : Arrangement}
    {change : Change} {posting : Posting}
    (told : posting ∈ (gateway.fanOut lookup arrangement.order change).postings) :
    home posting.letter.recipient = some .app ∧ posting.letter.message.space = .app := by
  rcases of_fannedOut told with ⟨addressed, _, message, served⟩
  have listed := (arrangement.perm _).mem_iff.mp served
  rcases (mem_targets_iff wellFormed).mp listed with ⟨identity, known, _⟩
  rw [message]
  exact ⟨atHome.opened _ .app _ known, rfl⟩

theorem home_of_posting (standard : gateway.observers = .standard)
    (wellFormed : gateway.registry.WellFormed) (atHome : gateway.registry.AtHome home)
    (keeps : event.KeepsTo home) {posting : Posting}
    (posted : posting ∈ (gateway.serve event).postings) :
    home posting.letter.recipient = some posting.letter.message.space := by
  rcases source_of_posting posted with answered | ⟨sender, pointer, _, relayed⟩ |
    ⟨lookup, arrangement, change, _, told⟩
  · rw [standard] at answered
    rcases Observers.space_of_standard answered with ⟨movement, moved, ⟨member, listed, same⟩, kind⟩
    rw [← same, kind]
    exact toldAtHome_serve wellFormed atHome keeps movement moved member listed
  · rcases page_of_relayed atHome relayed with ⟨page, kind⟩
    rw [page, kind]
  · rcases app_of_fannedOut wellFormed atHome told with ⟨app, kind⟩
    rw [app, kind]

end Gateway

/-! ## A whole run -/

namespace Chronicle

open ServiceEvent

theorem home_of_posting {home : ClientId → Option Space} {events : List ServiceEvent}
    (fresh : FreshIds events) (keeps : ∀ event ∈ events, event.KeepsTo home) {posting : Posting}
    (posted : posting ∈ (of .standard events).postings) :
    home posting.letter.recipient = some posting.letter.message.space := by
  induction events using List.reverseRecOn with
  | nil => cases posted
  | append_singleton events event induction =>
      have earlier := fresh.sublist (List.sublist_append_left events [event])
      have keepsSoFar := fun other member => keeps other (List.mem_append_left [event] member)
      rw [of_concat] at posted
      rcases List.mem_append.mp posted with before | now
      · exact induction earlier keepsSoFar before
      · exact Gateway.home_of_posting (of_observers .standard events)
          (wellFormed .standard earlier) (atHome .standard earlier keepsSoFar)
          (keeps event (by simp)) now

/-- Where frames are applied to the family that their connection was opened for, a connection
is never offered a message that is meant for the other family: pages get departures and
pointers, applications get lists of editors and changes. -/
theorem messages_keep_to_families {events : List ServiceEvent} (fresh : FreshIds events)
    (ownFamily : OwnFamily events) {client : ClientId} {space : Space}
    (opened : ServiceEvent.home events client = some space) :
    ∀ message ∈ offeredTo client (of .standard events).postings, message.space = space := by
  intro message offered
  rcases List.mem_map.mp offered with ⟨letter, chosen, rfl⟩
  rcases List.mem_filter.mp chosen with ⟨sent, own⟩
  rcases List.mem_map.mp sent with ⟨posting, posted, rfl⟩
  have homed := home_of_posting fresh (fun event => ownFamily.keepsTo fresh) posted
  rw [beq_iff_eq.mp own, opened] at homed
  exact (Option.some.inj homed).symm

/-- A person has an application and a page connection in rooms of one name, each with a peer.
The page is joined before the person is known. A change is for the person, a peer points and
leaves. -/
theorem messages_keep_to_families_of_shared_names :
    let outbox : Outbox := ⟨8, [], true⟩
    let ann : Identity := ⟨"Ann", "ann@x"⟩
    let change : Change :=
      ⟨.comment, .insert, "1", some [("policies", .array [.object
        [("permission", .string "read:comments"), ("users", .array [.string "ann@x"])]]),
        ("threadId", .string "5")]⟩
    let events : List ServiceEvent :=
      [.connect ⟨"a"⟩ .app outbox, .connect ⟨"p"⟩ .page outbox, .connect ⟨"q"⟩ .page outbox,
        .frame ⟨"p"⟩ .page (.startEdit "1"), .login ⟨"a"⟩ (.ok ann), .login ⟨"p"⟩ (.ok ann),
        .login ⟨"q"⟩ (.ok ⟨"Bob", "bob@x"⟩), .frame ⟨"a"⟩ .app (.startEdit "1"),
        .frame ⟨"q"⟩ .page (.startEdit "1"),
        .frame ⟨"q"⟩ .page (.mousePointer ⟨none, none, [("x", .number (.integer 3))]⟩),
        .change (fun _ => .ok (some "7")) .plain change, .disconnect ⟨"q"⟩]
    let postings := (of .standard events).postings
    FreshIds events ∧ OwnFamily events ∧
      ServiceEvent.home events ⟨"a"⟩ = some .app ∧ ServiceEvent.home events ⟨"p"⟩ = some .page ∧
      (offeredTo ⟨"a"⟩ postings).length = 2 ∧ (offeredTo ⟨"p"⟩ postings).length = 2 ∧
      (∀ message ∈ offeredTo ⟨"a"⟩ postings, message.space = .app) ∧
      ∀ message ∈ offeredTo ⟨"p"⟩ postings, message.space = .page := by
  intro outbox ann change events postings
  have fresh : FreshIds events := by decide
  have ownFamily : OwnFamily events := by
    intro client space message sent own opened
    simp only [events, List.mem_cons, ServiceEvent.frame.injEq, reduceCtorEq, List.not_mem_nil,
      false_or, or_false] at sent
    rcases sent with ⟨rfl, rfl, _⟩ | ⟨rfl, rfl, _⟩ | ⟨rfl, rfl, _⟩ | ⟨rfl, rfl, _⟩ <;>
      cases opened <;> rfl
  have app : ServiceEvent.home events ⟨"a"⟩ = some .app := by decide
  have page : ServiceEvent.home events ⟨"p"⟩ = some .page := by decide
  exact ⟨fresh, ownFamily, app, page, by decide +kernel, by decide +kernel,
    messages_keep_to_families fresh ownFamily app, messages_keep_to_families fresh ownFamily page⟩

end Chronicle

end SharedEditing
