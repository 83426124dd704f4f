import SharedEditing.Proofs.Gateway.Chronicle
import SharedEditing.Proofs.Registry.Absence

/-! # A connection that nobody knows is invisible

A connection whose session is not found out, or not yet, is handed nothing, and a run goes
on as if it had never been opened. The run without its steps is followed alongside: after
each step of the others the two gateways differ in the entries of this connection only. -/

namespace SharedEditing

/-! ## Letters to the others -/

namespace Outboxes

theorem post_erase (outboxes : Outboxes) {letters : List Letter} {client : ClientId}
    (others : ∀ letter ∈ letters, letter.recipient ≠ client) :
    post (outboxes.erase client) letters =
      ((post outboxes letters).1.erase client, (post outboxes letters).2) := by
  induction letters generalizing outboxes with
  | nil => rfl
  | cons letter rest induction =>
      have different := others letter (.head rest)
      have later := fun other member => others other (.tail letter member)
      have accepted : wouldAccept (outboxes.erase client) letter.recipient =
          wouldAccept outboxes letter.recipient := by
        unfold wouldAccept
        rw [Table.get?_erase, if_neg different.symm]
      simp only [post, accepted, ← Table.erase_modify]
      rw [induction _ later]

end Outboxes

namespace Gateway

variable {gateway : Gateway} {client : ClientId}

def without (gateway : Gateway) (client : ClientId) : Gateway :=
  { gateway with
    registry := gateway.registry.dropConnection client
    outboxes := gateway.outboxes.erase client }

def Report.without {α : Type} (report : Report α) (client : ClientId) : Report α :=
  { report with gateway := report.gateway.without client }

def Report.OffersTo {α : Type} (report : Report α) (registry : Registry) : Prop :=
  ∀ posting ∈ report.postings, registry.profileOf posting.letter.recipient ≠ none

/-! ## Who is offered something -/

theorem offersTo_emitExcept (gateway : Gateway) (room : Room) (sender : ClientId)
    (message : ServerMessage) :
    (gateway.emitExcept room sender message).OffersTo gateway.registry := by
  intro posting posted
  rcases of_emitted posted with ⟨_, _, member, present, same⟩
  rw [← same]
  exact Registry.profileOf_of_mem_members present

theorem offersTo_relay (gateway : Gateway) (sender : ClientId) (pointer : PointerEvent) :
    (gateway.relay sender pointer).OffersTo gateway.registry := by
  unfold relay
  split
  · exact gateway.offersTo_emitExcept _ sender _
  · exact fun posting posted => nomatch posted

theorem offersTo_fanOut (gateway : Gateway) (lookup : ThreadLookup) (arrangement : Arrangement)
    (change : Change) :
    (gateway.fanOut lookup arrangement.order change).OffersTo gateway.registry := by
  intro posting posted
  rcases of_fannedOut posted with ⟨addressed, _, _, served⟩
  have target := (arrangement.perm _).mem_iff.mp served
  unfold targets at target
  rw [List.mem_eraseDups, List.mem_filter] at target
  exact (gateway.registry.isLive_iff _).mp target.2

theorem offersTo_serve (wellFormed : gateway.registry.WellFormed) (event : ServiceEvent) :
    (gateway.serve event).OffersTo gateway.registry := by
  intro posting posted
  rcases source_of_posting posted with answered | ⟨sender, pointer, rfl, passed⟩ |
    ⟨lookup, arrangement, change, rfl, told⟩
  · rcases Observers.answer_of_letter answered with ⟨movement, moved, ⟨member, told, same⟩, _⟩
    have opens : event.opened? = none := by
      cases event with
      | connect client space outbox => cases moved
      | _ => rfl
    rw [← same]
    exact (serve_shifts wellFormed opens).told moved told
  · exact gateway.offersTo_relay sender pointer posting passed
  · exact gateway.offersTo_fanOut lookup arrangement change posting told

/-! ## Steps of the others -/

theorem post_without (gateway : Gateway) {letters : List Letter}
    (others : ∀ letter ∈ letters, letter.recipient ≠ client) :
    (gateway.without client).post letters =
      ((gateway.post letters).1.without client, (gateway.post letters).2) := by
  have posted := gateway.outboxes.post_erase others
  unfold post without
  rw [posted]

theorem carryOut_apart {α : Type} (gateway : Gateway) {step : Registry.Step α}
    (others : ∀ letter ∈ gateway.observers.letters step.movements, letter.recipient ≠ client) :
    (gateway.without client).carryOut (step.apart client) =
      (gateway.carryOut step).without client :=
  congrArg
    (fun posted : Gateway × List Posting =>
      (⟨step.answer, posted.1, step.movements, posted.2⟩ : Report α))
    (post_without { gateway with registry := step.registry } others)

theorem carryOut_without {α : Type} (operation : Registry → Registry.Step α)
    (apart : operation (gateway.registry.dropConnection client) =
      (operation gateway.registry).apart client)
    (shifts : Registry.Shifts (gateway.registry.dropConnection client)
      (operation (gateway.registry.dropConnection client)).movements
      (operation (gateway.registry.dropConnection client)).registry) :
    (gateway.without client).carryOut (operation (gateway.registry.dropConnection client)) =
      (gateway.carryOut (operation gateway.registry)).without client := by
  rw [apart]
  apply gateway.carryOut_apart
  intro letter sent same
  rcases Observers.answer_of_letter sent with ⟨movement, moved, ⟨member, told, recipient⟩, _⟩
  rw [apart] at shifts
  have connected := shifts.told moved told
  rw [recipient, same, Registry.profileOf_dropConnection, if_pos rfl] at connected
  exact connected rfl

theorem deliverTo_without (gateway : Gateway) {clients : List ClientId}
    (unaddressed : client ∉ clients) (notice : Notice) :
    (gateway.without client).deliverTo clients notice =
      (gateway.deliverTo clients notice).without client := by
  have others : ∀ letter ∈ clients.map fun other => (⟨other, .change notice⟩ : Letter),
      letter.recipient ≠ client := by
    intro letter sent same
    rcases List.mem_map.mp sent with ⟨other, addressed, rfl⟩
    exact unaddressed (same ▸ addressed)
  have posted := gateway.post_without others
  unfold deliverTo
  simp only [posted]
  rfl

section Unidentified

variable (wellFormed : gateway.registry.WellFormed)
  (unidentified : gateway.registry.identityOf client = none)

include wellFormed unidentified

theorem emitExcept_without (room : Room) (sender : ClientId) (message : ServerMessage) :
    (gateway.without client).emitExcept room sender message =
      (gateway.emitExcept room sender message).without client := by
  have absent := wellFormed.absent unidentified
  have members : (gateway.without client).registry.members room = gateway.registry.members room :=
    absent.members_apart room
  have others : ∀ letter ∈ Presence.toAll
      ((gateway.registry.members room).filter fun member => member.client ≠ sender) message,
      letter.recipient ≠ client := by
    intro letter sent same
    rcases List.mem_map.mp sent with ⟨member, present, rfl⟩
    have listed : member.client ∈ (gateway.registry.members room).map Member.client :=
      List.mem_map_of_mem (List.mem_of_mem_filter present)
    rw [wellFormed.map_client_members] at listed
    exact absent room (same ▸ listed)
  have posted := gateway.post_without others
  unfold emitExcept
  simp only [members, posted]
  rfl

theorem relay_without {sender : ClientId} (different : sender ≠ client)
    (pointer : PointerEvent) :
    (gateway.without client).relay sender pointer =
      (gateway.relay sender pointer).without client := by
  have stamped : stampedPointer (gateway.without client).registry sender pointer =
      stampedPointer gateway.registry sender pointer := by
    unfold stampedPointer
    rw [← gateway.registry.senderContext_apart different .page]
    rfl
  unfold relay
  rw [stamped]
  split
  · exact emitExcept_without wellFormed unidentified _ sender _
  · rfl

theorem targets_without (audience : Audience) :
    targets (gateway.registry.dropConnection client) audience =
      targets gateway.registry audience := by
  unfold targets
  have listeners : (gateway.registry.dropConnection client).listeners =
      gateway.registry.listeners := rfl
  rw [listeners]
  congr 1
  apply List.filter_congr
  intro other listening
  rcases List.mem_flatMap.mp listening with ⟨email, _, listener⟩
  have different : other ≠ client := fun same =>
    wellFormed.not_listening unidentified email (same ▸ listener)
  rw [Bool.eq_iff_iff, Registry.isLive_iff, Registry.isLive_iff,
    gateway.registry.profileOf_apart different]

theorem fanOut_without (lookup : ThreadLookup) (arrangement : Arrangement) (change : Change) :
    (gateway.without client).fanOut lookup arrangement.order change =
      (gateway.fanOut lookup arrangement.order change).without client := by
  cases routed : FanOut.routed lookup change with
  | error reason =>
      rw [fanOut_of_dropped routed, fanOut_of_dropped routed]
      rfl
  | ok addressed =>
      have served : targets (gateway.without client).registry addressed.audience =
          targets gateway.registry addressed.audience :=
        targets_without wellFormed unidentified addressed.audience
      have unaddressed : client ∉ arrangement.order
          (targets gateway.registry addressed.audience) := by
        intro ordered
        have target := (arrangement.perm _).mem_iff.mp ordered
        rcases (mem_targets_iff wellFormed).mp target with ⟨identity, known, _⟩
        rw [Registry.identityOf_eq, known] at unidentified
        cases unidentified
      have delivered := gateway.deliverTo_without unaddressed addressed.event.notice
      rw [fanOut_of_routed routed, fanOut_of_routed routed]
      split
      · rfl
      · simp only [served, delivered]
        rfl

theorem serve_without {event : ServiceEvent} (other : event.actor? ≠ some client) :
    (gateway.without client).serve event = (gateway.serve event).without client := by
  have absent := wellFormed.absent unidentified
  have apart := wellFormed.dropConnection unidentified
  cases event with
  | connect opened space outbox =>
      have different : opened ≠ client := fun same => other (congrArg some same)
      have connected := gateway.registry.connect_apart different space
      have filled := gateway.outboxes.erase_set_of_ne opened outbox different
      simp only [serve, connect, without, Report.without, connected, filled]
  | login known found =>
      have different : known ≠ client := fun same => other (congrArg some same)
      cases found with
      | error error => rfl
      | ok identity =>
          have attached := carryOut_without (fun registry => registry.authenticate known identity)
            (absent.authenticate_apart wellFormed apart different identity)
            (Registry.authenticate_shifts apart known identity)
          simp only [serve, login, authenticate]
          exact congrArg (fun report : Report Bool => report.answering [(known, report.answer)])
            attached
  | frame sender space message =>
      have different : sender ≠ client := fun same => other (congrArg some same)
      cases message with
      | startEdit resource =>
          exact congrArg (fun report : Report JoinAnswer => report.answering [])
            (carryOut_without (fun registry => registry.requestJoin sender ⟨space, resource⟩)
              (absent.requestJoin_apart wellFormed apart different _)
              (Registry.requestJoin_shifts apart sender _))
      | leaveEdit resource =>
          exact congrArg (fun report : Report Unit => report.answering [])
            (carryOut_without (fun registry => registry.leave sender ⟨space, resource⟩)
              (absent.leave_apart wellFormed apart different _)
              (Registry.leave_shifts apart sender _))
      | mousePointer pointer =>
          cases space with
          | app => rfl
          | page =>
              exact congrArg (fun report : Report Nat => report.answering [])
                (relay_without wellFormed unidentified different pointer)
  | disconnect gone =>
      have different : gone ≠ client := fun same => other (congrArg some same)
      exact congrArg (fun report : Report Unit => report.answering [])
        (carryOut_without (fun registry => registry.disconnect gone)
          (absent.disconnect_apart wellFormed apart different)
          (Registry.disconnect_shifts apart gone))
  | change lookup arrangement change =>
      exact congrArg (fun report : Report Outcome => report.answering [])
        (fanOut_without wellFormed unidentified lookup arrangement change)
  | drain drained =>
      have emptied := gateway.outboxes.erase_modify drained Outbox.drain client
      simp only [serve, drain, without, Report.without, emptied]
  | closeOutbox closed =>
      have emptied := gateway.outboxes.erase_modify closed Outbox.close client
      simp only [serve, closeOutbox, without, Report.without, emptied]

theorem recipient_serve {event : ServiceEvent} (other : event.actor? ≠ some client)
    {posting : Posting} (posted : posting ∈ (gateway.serve event).postings) :
    posting.letter.recipient ≠ client := by
  intro same
  -- The same is offered where the connection does not exist, so not to it.
  have alongside := serve_without wellFormed unidentified other
  have offered : ((gateway.without client).serve event).OffersTo
      (gateway.registry.dropConnection client) :=
    offersTo_serve (wellFormed.dropConnection unidentified) event
  rw [alongside] at offered
  apply offered posting posted
  rw [same, Registry.profileOf_dropConnection, if_pos rfl]

end Unidentified

/-! ## Steps of the connection itself -/

structure Report.Unseen {α : Type} (gateway : Gateway) (client : ClientId) (report : Report α) :
    Prop where
  gateway : report.gateway.without client = gateway.without client
  silent : report.postings = []

theorem Report.Unseen.answering {α β : Type} {report : Report α}
    (unseen : report.Unseen gateway client) (answer : β) :
    (report.answering answer).Unseen gateway client :=
  ⟨unseen.gateway, unseen.silent⟩

theorem unseen_carryOut {α : Type} {step : Registry.Step α}
    (unseen : step.Unseen gateway.registry client) :
    (gateway.carryOut step).Unseen gateway client := by
  unfold carryOut
  rw [unseen.still]
  refine ⟨?_, rfl⟩
  change ({ gateway with registry := step.registry } : Gateway).without client = _
  unfold without
  rw [unseen.registry]

theorem relay_of_unidentified (unidentified : gateway.registry.identityOf client = none)
    (pointer : PointerEvent) : gateway.relay client pointer = ⟨0, gateway, [], []⟩ := by
  have nowhere := Registry.WellFormed.senderContext_of_unidentified unidentified .page
  unfold relay stampedPointer
  rw [nowhere]
  rfl

theorem serve_unseen (wellFormed : gateway.registry.WellFormed)
    (unidentified : gateway.registry.identityOf client = none) {event : ServiceEvent}
    (own : event.actor? = some client)
    (refused : (client, true) ∉ (gateway.serve event).answer) :
    (gateway.serve event).Unseen gateway client := by
  cases event with
  | connect opened space outbox =>
      cases own
      have connected := gateway.registry.dropConnection_connect client space
      have filled := gateway.outboxes.erase_set_self client outbox
      refine ⟨?_, rfl⟩
      simp only [serve, connect, without, connected, filled]
  | login known found =>
      cases own
      cases found with
      | error error => exact ⟨rfl, rfl⟩
      | ok identity =>
          have answer : (gateway.registry.authenticate client identity).answer = false := by
            apply Bool.eq_false_iff.mpr
            intro attached
            apply refused
            simp only [serve, login, authenticate, Report.answering, carryOut, attached,
              List.mem_singleton]
          have unseen := Registry.WellFormed.authenticate_unseen unidentified identity answer
          exact (unseen_carryOut unseen).answering _
  | frame sender space message =>
      cases own
      cases message with
      | startEdit resource =>
          have unseen := Registry.WellFormed.requestJoin_unseen unidentified ⟨space, resource⟩
          exact (unseen_carryOut unseen).answering []
      | leaveEdit resource =>
          have unseen := wellFormed.leave_unseen unidentified ⟨space, resource⟩
          exact (unseen_carryOut unseen).answering []
      | mousePointer pointer =>
          cases space with
          | app => exact ⟨rfl, rfl⟩
          | page =>
              simp only [serve, dispatch, relay_of_unidentified unidentified pointer]
              exact ⟨rfl, rfl⟩
  | disconnect gone =>
      cases own
      have unseen := wellFormed.disconnect_unseen unidentified
      exact (unseen_carryOut unseen).answering []
  | _ => cases own

end Gateway

/-! ## Whose identity is attached -/

theorem Seat.identity_request (seat : Seat) (room : Room) :
    (seat.request room).identity = seat.identity := by
  unfold request join sit
  split <;> rfl

theorem Seat.identity_leave (seat : Seat) (room : Room) :
    (seat.leave room).identity = seat.identity := by
  unfold leave vacate withdraw sit
  split <;> split <;> rfl

namespace Seating

open GatewayEvent

theorem identityOf_modify (seating : Seating) (client : ClientId) {change : Seat → Seat}
    (kept : ∀ seat, (change seat).identity = seat.identity) :
    identityOf (seating.modify client change) client = seating.identityOf client := by
  unfold identityOf
  rw [Table.get?_modify, if_pos rfl]
  cases seating.get? client with
  | none => rfl
  | some seat => exact kept seat

theorem identityOf_perform {seating : Seating} {client : ClientId} {event : GatewayEvent}
    (unidentified : seating.identityOf client = none)
    (refused : ∀ identity, event = .authenticate client identity →
      (seating.authenticate client identity).1 = false) :
    (seating.perform event).identityOf client = none := by
  have framed := seating.framed event
  by_cases own : event.mover? = some client
  · cases event with
    | connect opened space outbox =>
        cases own
        simp [perform, connect, identityOf, Table.get?_set]
    | authenticate known identity =>
        cases own
        rw [framed.refused client identity rfl (refused identity rfl)]
        exact unidentified
    | requestJoin asking room =>
        cases own
        have kept := seating.identityOf_modify client fun seat => seat.identity_request room
        exact kept.trans unidentified
    | leave leaving room =>
        cases own
        have kept := seating.identityOf_modify client fun seat => seat.identity_leave room
        exact kept.trans unidentified
    | disconnect gone =>
        cases own
        simp [perform, disconnect, identityOf, Table.get?_erase]
    | _ => cases own
  · rw [identityOf, framed.others client own]
    exact unidentified

end Seating

namespace Chronicle

open ServiceEvent

variable {observers : Observers} {events : List ServiceEvent} {client : ClientId}

theorem logins_of_begun {begun : List ServiceEvent} (start : begun <+: events)
    {login : ClientId × Bool} (attempted : login ∈ (of observers begun).logins) :
    login ∈ (of observers events).logins := by
  rcases start with ⟨rest, rfl⟩
  induction rest using List.reverseRecOn with
  | nil =>
      rw [List.append_nil]
      exact attempted
  | append_singleton rest event induction =>
      rw [← List.append_assoc, of_concat]
      exact List.mem_append_left _ induction

theorem unidentified (fresh : FreshIds events)
    (never : (client, true) ∉ (of observers events).logins) :
    (Seating.after {} events).identityOf client = none := by
  induction events using List.reverseRecOn with
  | nil => rfl
  | append_singleton events event induction =>
      have earlier := fresh.sublist (List.sublist_append_left events [event])
      rw [of_concat] at never
      have before := induction earlier fun attempted => never (List.mem_append_left _ attempted)
      rw [Seating.after_append]
      cases asked : event.move? with
      | none =>
          rw [Seating.after_of_still _ asked]
          exact before
      | some move =>
          rw [Seating.after_of_move _ asked]
          apply Seating.identityOf_perform before
          intro identity attempt
          subst attempt
          have attached := (seated observers earlier).authentication_eq client identity
          rw [← attached]
          apply Bool.eq_false_iff.mpr
          intro answer
          have logged := (of observers events).gateway.answer_of_attempt asked
          apply never
          apply List.mem_append_right
          rw [logged, answer]
          exact List.mem_singleton.mpr rfl

theorem identityOf_eq_none (fresh : FreshIds events)
    (never : (client, true) ∉ (of observers events).logins) :
    (of observers events).gateway.registry.identityOf client = none := by
  have nobody := unidentified fresh never
  have seat := seated observers fresh client
  rw [Seating.identityOf, seat, Registry.seatOf] at nobody
  rw [Registry.identityOf_eq]
  simpa [Option.bind_map, Function.comp_def] using nobody

/-! ## The run without a connection's steps -/

def others (client : ClientId) (events : List ServiceEvent) : List ServiceEvent :=
  events.filter fun event => event.actor? ≠ some client

theorem others_concat_of_own {event : ServiceEvent} (own : event.actor? = some client) :
    others client (events ++ [event]) = others client events := by
  simp [others, List.filter_append, own]

theorem others_concat_of_other {event : ServiceEvent} (other : event.actor? ≠ some client) :
    others client (events ++ [event]) = others client events ++ [event] := by
  simp [others, List.filter_append, other]

theorem alongside (fresh : FreshIds events)
    (never : (client, true) ∉ (of observers events).logins) :
    (of observers (others client events)).gateway = (of observers events).gateway.without client ∧
      (of observers (others client events)).postings = (of observers events).postings ∧
      ∀ posting ∈ (of observers events).postings, posting.letter.recipient ≠ client := by
  induction events using List.reverseRecOn with
  | nil => exact ⟨rfl, rfl, fun posting posted => nomatch posted⟩
  | append_singleton events event induction =>
      have begun := List.prefix_append events [event]
      have earlier := fresh.sublist begun.sublist
      have neverBefore := fun attempted => never (logins_of_begun begun attempted)
      have wellFormed := wellFormed observers earlier
      have unidentified := identityOf_eq_none earlier neverBefore
      rcases induction earlier neverBefore with ⟨gateway, postings, unaddressed⟩
      -- A step of the connection itself is left out of one run and not seen in the other.
      -- A step of anybody else is taken in both.
      rw [of_concat] at never ⊢
      by_cases own : event.actor? = some client
      · have unseen := Gateway.serve_unseen wellFormed unidentified own fun attached =>
          never (List.mem_append_right _ attached)
        rw [others_concat_of_own own, gateway, postings]
        simp only [record, unseen.gateway, unseen.silent, List.append_nil]
        exact ⟨trivial, trivial, unaddressed⟩
      · have served := Gateway.serve_without wellFormed unidentified own
        rw [others_concat_of_other own, of_concat]
        simp only [record, gateway, postings, served]
        refine ⟨rfl, rfl, fun posting posted => ?_⟩
        rcases List.mem_append.mp posted with before | now
        · exact unaddressed posting before
        · exact Gateway.recipient_serve wellFormed unidentified own now

/-- What anybody but a connection can see of two runs is the same. -/
structure AgreeBesides (client : ClientId) (left right : Chronicle) : Prop where
  postings : left.postings = right.postings
  rooms : left.gateway.registry.rooms = right.gateway.registry.rooms
  channels : left.gateway.registry.channels = right.gateway.registry.channels
  connections : ∀ other, other ≠ client →
    left.gateway.registry.connections.get? other = right.gateway.registry.connections.get? other
  outboxes : ∀ other, other ≠ client →
    left.gateway.outboxes.get? other = right.gateway.outboxes.get? other

/-- A connection that no identity was attached to is handed nothing, and at any time the
run without its steps has come to the same for everybody else. -/
theorem unknown_is_invisible (observers : Observers) {events begun : List ServiceEvent}
    (fresh : FreshIds events) {client : ClientId}
    (never : (client, true) ∉ (of observers events).logins) (start : begun <+: events) :
    (∀ posting ∈ (of observers begun).postings, posting.letter.recipient ≠ client) ∧
      AgreeBesides client (of observers (others client begun)) (of observers begun) := by
  have freshSoFar := fresh.sublist start.sublist
  rcases alongside freshSoFar fun attempted => never (logins_of_begun start attempted) with
    ⟨gateway, postings, unaddressed⟩
  refine ⟨unaddressed, postings, ?rooms, ?channels, fun other different => ?connections,
    fun other different => ?outboxes⟩
  case rooms =>
    rw [gateway]
    rfl
  case channels =>
    rw [gateway]
    rfl
  case connections =>
    rw [gateway]
    exact (Table.get?_erase _ client other).trans (if_neg different.symm)
  case outboxes =>
    rw [gateway]
    exact (Table.get?_erase _ client other).trans (if_neg different.symm)

/-- The connection asks for the room that the others are in, leaves it and is gone, while
a change is for its person, too. -/
theorem unknown_is_invisible_of_guest :
    let outbox : Outbox := ⟨8, [], true⟩
    let change : Change :=
      ⟨.comment, .insert, "1", some [("policies", .array [.object
        [("permission", .string "read:comments"),
          ("users", .array [.string "ann@x", .string "uma@x"])]]), ("threadId", .string "5")]⟩
    let begun : List ServiceEvent :=
      [.connect ⟨"a"⟩ .app outbox, .connect ⟨"u"⟩ .app outbox,
        .login ⟨"a"⟩ (.ok ⟨"Ann", "ann@x"⟩), .frame ⟨"u"⟩ .app (.startEdit "1"),
        .frame ⟨"a"⟩ .app (.startEdit "1"), .login ⟨"u"⟩ (.error .invalidSession),
        .change (fun _ => .ok (some "7")) .plain change, .frame ⟨"u"⟩ .app (.leaveEdit "1"),
        .disconnect ⟨"u"⟩, .login ⟨"u"⟩ (.ok ⟨"Uma", "uma@x"⟩)]
    let events := begun ++ [.frame ⟨"a"⟩ .app (.leaveEdit "1")]
    FreshIds events ∧ (⟨"u"⟩, true) ∉ (of .standard events).logins ∧ begun <+: events ∧
      (of .standard begun).postings.length = 2 ∧
      (∀ posting ∈ (of .standard begun).postings, posting.letter.recipient ≠ ⟨"u"⟩) ∧
        AgreeBesides ⟨"u"⟩ (of .standard (others ⟨"u"⟩ begun)) (of .standard begun) := by
  intro outbox change begun events
  have fresh : FreshIds events := by decide
  have never : (⟨"u"⟩, true) ∉ (of .standard events).logins := by decide
  have start : begun <+: events := List.prefix_append begun _
  exact ⟨fresh, never, start, by decide, unknown_is_invisible .standard fresh never start⟩

end Chronicle

end SharedEditing
