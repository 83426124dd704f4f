import SharedEditing.Proofs.Gateway.Families
import SharedEditing.Proofs.Registry.Independence

/-! # The order of operations that do not meet

Connections ask at any time, and what they ask for is carried out in some order. Where no room
has to do with two operations the order does not matter: the registry holds the same, and
everybody is told the same in the same order. For somebody to be told by both it would have to
be in a room of each, but a connection is in one room at most. -/

namespace SharedEditing

def Registry.Operation.event (client : ClientId) : Registry.Operation → GatewayEvent
  | authenticate identity => .authenticate client identity
  | requestJoin room => .requestJoin client room
  | leave room => .leave client room
  | disconnect => .disconnect client

/-- Two journals that lead to the same. Everybody is offered the same messages in the same
order, and as many of them are accepted. -/
structure Journal.Same (left right : Journal) : Prop where
  registry : left.gateway.registry.Same right.gateway.registry
  offered : ∀ client, offeredTo client left.postings = offeredTo client right.postings
  accepted : ∀ client, acceptedBy client left.postings = acceptedBy client right.postings
  outboxes : ∀ client, left.gateway.outboxes.get? client = right.gateway.outboxes.get? client

namespace Registry

variable {registry : Registry} {client other : ClientId} {first second : Operation}

def SingleRoomed (registry : Registry) : Prop :=
  ∀ client room place, client ∈ registry.membersOf room → client ∈ registry.membersOf place →
    room = place

/-- Whoever keeps to the family that it was opened for is in one room at most. -/
theorem AtHome.singleRoomed {home : ClientId → Option Space} (atHome : registry.AtHome home)
    (wellFormed : registry.WellFormed) : registry.SingleRoomed := by
  intro client room place member also
  have family := (atHome.members room client member).symm.trans (atHome.members place client also)
  exact wellFormed.eq_of_members member also (Option.some.inj family)

theorem WellFormed.not_told_of_both (wellFormed : registry.WellFormed)
    (single : registry.SingleRoomed)
    (independent : registry.Independent client first other second) {movement later : Movement}
    (moved : movement ∈ (registry.operate client first).2)
    (follows : later ∈ (registry.operate other second).2) {member same : Member}
    (listed : member ∈ movement.members) (also : same ∈ later.members) :
    member.client ≠ same.client := by
  intro someone
  rcases wellFormed.told_of_operate moved with ⟨concerned, told⟩
  rcases wellFormed.told_of_operate follows with ⟨others, heard⟩
  have held {client : ClientId} {operation : Operation} {room : Room}
      (present : client ∈ registry.membersOf room) : registry.Concerns client operation room :=
    .held ((wellFormed.agree client room).mpr present)
  rcases told member listed with own | present <;>
    rcases heard same also with theirs | there
  · exact independent.different (own.symm.trans (someone.trans theirs))
  · exact independent.apart _ (held (own ▸ someone ▸ there)) others
  · exact independent.apart _ concerned (held (theirs ▸ someone ▸ present))
  · have place := single _ _ _ present (someone ▸ there)
    exact independent.apart _ concerned (place ▸ others)

end Registry

namespace Gateway

open Registry

variable {gateway : Gateway} {client other : ClientId} {first second : Registry.Operation}

theorem messagesTo_comm (wellFormed : gateway.registry.WellFormed)
    (single : gateway.registry.SingleRoomed)
    (independent : gateway.registry.Independent client first other second) (someone : ClientId) :
    messagesTo someone (gateway.observers.letters (gateway.registry.operate client first).2 ++
        gateway.observers.letters (gateway.registry.operate other second).2) =
      messagesTo someone (gateway.observers.letters (gateway.registry.operate other second).2 ++
        gateway.observers.letters (gateway.registry.operate client first).2) := by
  rw [messagesTo_append, messagesTo_append]
  by_cases told : ∃ movement ∈ (gateway.registry.operate client first).2,
      ∃ member ∈ movement.members, member.client = someone
  · rcases told with ⟨movement, moved, member, listed, rfl⟩
    rw [messagesTo_letters_of_untold gateway.observers fun later follows same also =>
      (wellFormed.not_told_of_both single independent moved follows listed also).symm]
    simp
  · push Not at told
    rw [messagesTo_letters_of_untold gateway.observers told]
    simp

def operateInTurn (gateway : Gateway) (client : ClientId) (first : Registry.Operation)
    (other : ClientId) (second : Registry.Operation) : Journal :=
  (({ gateway } : Journal).record (first.event client)).record (second.event other)

theorem perform_event (gateway : Gateway) (client : ClientId) (operation : Registry.Operation) :
    gateway.perform (operation.event client) = gateway.operate client operation := by
  cases operation <;> rfl

theorem operateInTurn_registry (gateway : Gateway) (client other : ClientId)
    (first second : Registry.Operation) :
    (gateway.operateInTurn client first other second).gateway.registry =
      ((gateway.registry.operate client first).1.operate other second).1 := by
  simp only [operateInTurn, Journal.record, perform_event]
  rfl

theorem operateInTurn_post (gateway : Gateway) (client other : ClientId)
    (first second : Registry.Operation) :
    let letters := gateway.observers.letters (gateway.registry.operate client first).2 ++
      gateway.observers.letters
        ((gateway.registry.operate client first).1.operate other second).2
    (gateway.operateInTurn client first other second).gateway.outboxes =
        (gateway.outboxes.post letters).1 ∧
      (gateway.operateInTurn client first other second).postings =
        (gateway.outboxes.post letters).2 := by
  intro letters
  rw [Outboxes.post_append]
  simp only [operateInTurn, Journal.record, perform_event]
  exact ⟨rfl, rfl⟩

theorem operateInTurn_comm (wellFormed : gateway.registry.WellFormed)
    (single : gateway.registry.SingleRoomed)
    (independent : gateway.registry.Independent client first other second) :
    (gateway.operateInTurn client first other second).Same
      (gateway.operateInTurn other second client first) := by
  rcases wellFormed.operate_comm independent with ⟨same, others, own⟩
  rcases gateway.operateInTurn_post client other first second with ⟨outboxes, postings⟩
  rcases gateway.operateInTurn_post other client second first with ⟨swapped, exchanged⟩
  rw [others] at outboxes postings
  rw [own] at swapped exchanged
  have messages := messagesTo_comm wellFormed single independent
  have agree (someone : ClientId) :=
    Outboxes.post_agree (Eq.refl (gateway.outboxes.get? someone)) (messages someone)
  refine ⟨?registry, fun someone => ?offered, fun someone => ?accepted, fun someone => ?outboxes⟩
  case registry =>
    rw [operateInTurn_registry, operateInTurn_registry]
    exact same
  case offered =>
    rw [offeredTo, offeredTo, postings, exchanged, Outboxes.map_letter_post,
      Outboxes.map_letter_post, messages someone]
  case accepted =>
    rw [postings, exchanged]
    exact (agree someone).1
  case outboxes =>
    rw [outboxes, swapped]
    exact (agree someone).2

end Gateway

namespace Chronicle

open ServiceEvent

/-- Two connections ask for something, and neither holds, waits for or asks for a room that the
other does. Then the order in which they are served does not matter, whatever happened before. -/
theorem independent_operations_commute (observers : Observers) {events : List ServiceEvent}
    (fresh : FreshIds events) (ownFamily : OwnFamily events) {client other : ClientId}
    {first second : Registry.Operation}
    (independent :
      (of observers events).gateway.registry.Independent client first other second) :
    ((of observers events).gateway.operateInTurn client first other second).Same
      ((of observers events).gateway.operateInTurn other second client first) := by
  have wellFormed := wellFormed observers fresh
  have atHome := atHome observers fresh fun event => ownFamily.keepsTo fresh
  exact Gateway.operateInTurn_comm wellFormed (atHome.singleRoomed wellFormed) independent

/-- Two connections of one person, each with a peer. One becomes known and enters the room that
it waited for, the other goes. They share the channel of their person all the same. -/
theorem independent_operations_commute_of_one_person :
    let outbox : Outbox := ⟨8, [], true⟩
    let ann : Identity := ⟨"Ann", "ann@x"⟩
    let events : List ServiceEvent :=
      [.connect ⟨"a"⟩ .app outbox, .connect ⟨"b"⟩ .app outbox, .connect ⟨"c"⟩ .app outbox,
        .connect ⟨"d"⟩ .app outbox, .frame ⟨"a"⟩ .app (.startEdit "1"),
        .login ⟨"b"⟩ (.ok ann), .login ⟨"c"⟩ (.ok ⟨"Cid", "cid@x"⟩),
        .login ⟨"d"⟩ (.ok ⟨"Dan", "dan@x"⟩), .frame ⟨"b"⟩ .app (.startEdit "2"),
        .frame ⟨"c"⟩ .app (.startEdit "1"), .frame ⟨"d"⟩ .app (.startEdit "2")]
    let gateway := (of .standard events).gateway
    let journal := gateway.operateInTurn ⟨"a"⟩ (.authenticate ann) ⟨"b"⟩ .disconnect
    FreshIds events ∧ OwnFamily events ∧
      gateway.registry.Independent ⟨"a"⟩ (.authenticate ann) ⟨"b"⟩ .disconnect ∧
      gateway.registry.listeners "ann@x" = [⟨"b"⟩] ∧
      journal.gateway.registry.listeners "ann@x" = [⟨"a"⟩] ∧
      (offeredTo ⟨"c"⟩ journal.postings).length = 1 ∧
      (offeredTo ⟨"d"⟩ journal.postings).length = 1 ∧
      journal.Same (gateway.operateInTurn ⟨"b"⟩ .disconnect ⟨"a"⟩ (.authenticate ann)) := by
  intro outbox ann events gateway journal
  have fresh : FreshIds events := by decide
  have ownFamily : OwnFamily events := by
    intro client space message sent own opened
    simp only [events, List.mem_cons, ServiceEvent.frame.injEq, reduceCtorEq, List.not_mem_nil,
      false_or, or_false] at sent
    rcases sent with ⟨rfl, rfl, _⟩ | ⟨rfl, rfl, _⟩ | ⟨rfl, rfl, _⟩ | ⟨rfl, rfl, _⟩ <;>
      cases opened <;> rfl
  have waits : ∀ room, gateway.registry.Concerns ⟨"a"⟩ (.authenticate ann) room →
      room = ⟨.app, "1"⟩ := by
    have nowhere : gateway.registry.roomsOf ⟨"a"⟩ = [] := by decide +kernel
    have parked : gateway.registry.parkedRoom ⟨"a"⟩ = some ⟨.app, "1"⟩ := by decide +kernel
    rintro room (held | request | requested)
    · rw [nowhere] at held
      cases held
    · exact (Option.some.inj (parked.symm.trans request)).symm
    · cases requested
  have elsewhere : ¬gateway.registry.Concerns ⟨"b"⟩ .disconnect ⟨.app, "1"⟩ := by
    have rooms : gateway.registry.roomsOf ⟨"b"⟩ = [⟨.app, "2"⟩] := by decide +kernel
    have unparked : gateway.registry.parkedRoom ⟨"b"⟩ = none := by decide +kernel
    rintro (held | request | requested)
    · rw [rooms] at held
      exact absurd held (by decide)
    · cases unparked.symm.trans request
    · cases requested
  have independent :
      gateway.registry.Independent ⟨"a"⟩ (.authenticate ann) ⟨"b"⟩ .disconnect :=
    ⟨by decide, fun room concerned => waits room concerned ▸ elsewhere⟩
  exact ⟨fresh, ownFamily, independent, by decide +kernel, by decide +kernel, by decide +kernel,
    by decide +kernel, independent_operations_commute .standard fresh ownFamily independent⟩

end Chronicle

end SharedEditing
