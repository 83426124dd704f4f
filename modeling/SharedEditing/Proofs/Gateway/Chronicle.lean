import SharedEditing.Proofs.Gateway.Delivery
import SharedEditing.Proofs.Gateway.Seats

/-! # Chronicles

A gateway as a server drives it: connections open and close, their frames are applied,
sessions are found out or not, changes are fanned out, and outboxes are read or given up.
To the registry this is a journal with some of its events, so what holds of journals holds
of chronicles. -/

namespace SharedEditing

/-- An order to serve recipients in, which leaves out nobody and serves nobody twice. -/
structure Arrangement where
  order : List ClientId → List ClientId
  perm : ∀ clients, (order clients).Perm clients

def Arrangement.plain : Arrangement := ⟨id, fun _ => .refl _⟩

inductive ServiceEvent where
  | connect (client : ClientId) (space : Space) (outbox : Outbox)
  /-- The session service has answered who the person behind a connection is. -/
  | login (client : ClientId) (found : Except Session.AuthError Identity)
  | frame (client : ClientId) (space : Space) (message : ClientMessage)
  | disconnect (client : ClientId)
  | change (lookup : ThreadLookup) (arrangement : Arrangement) (change : Change)
  | drain (client : ClientId)
  | closeOutbox (client : ClientId)

namespace ServiceEvent

def opened? : ServiceEvent → Option ClientId
  | connect client _ _ => some client
  | _ => none

def actor? : ServiceEvent → Option ClientId
  | connect client _ _ => some client
  | login client _ => some client
  | frame client _ _ => some client
  | disconnect client => some client
  | _ => none

def FreshIds (events : List ServiceEvent) : Prop := (events.filterMap opened?).Nodup

instance (events : List ServiceEvent) : Decidable (FreshIds events) :=
  inferInstanceAs (Decidable (events.filterMap opened?).Nodup)

theorem FreshIds.sublist {events kept : List ServiceEvent} (fresh : FreshIds events)
    (sublist : kept.Sublist events) : FreshIds kept :=
  List.Nodup.sublist (sublist.filterMap opened?) fresh

def move? : ServiceEvent → Option GatewayEvent
  | connect client space outbox => some (.connect client space outbox)
  | login client (.ok identity) => some (.authenticate client identity)
  | frame client space (.startEdit resource) => some (.requestJoin client ⟨space, resource⟩)
  | frame client space (.leaveEdit resource) => some (.leave client ⟨space, resource⟩)
  | disconnect client => some (.disconnect client)
  | _ => none

theorem opened_of_move (event : ServiceEvent) :
    event.move?.bind GatewayEvent.opened? = event.opened? := by
  cases event with
  | login client found => cases found <;> rfl
  | frame client space message => cases message <;> rfl
  | _ => rfl

theorem mover_of_move {event : ServiceEvent} {move : GatewayEvent}
    (asked : event.move? = some move) : move.mover? = event.actor? := by
  cases event with
  | login client found =>
      cases found with
      | error error => cases asked
      | ok identity => cases asked; rfl
  | frame client space message =>
      cases message with
      | mousePointer pointer => cases asked
      | _ => cases asked; rfl
  | connect client space outbox => cases asked; rfl
  | disconnect client => cases asked; rfl
  | _ => cases asked

theorem opened_of_moves (events : List ServiceEvent) :
    (events.filterMap move?).filterMap GatewayEvent.opened? = events.filterMap opened? := by
  rw [List.filterMap_filterMap]
  exact List.filterMap_congr fun event _ => event.opened_of_move

theorem FreshIds.moves {events : List ServiceEvent} (fresh : FreshIds events) :
    GatewayEvent.FreshIds (events.filterMap move?) := by
  unfold GatewayEvent.FreshIds
  rw [opened_of_moves]
  exact fresh

theorem FreshIds.not_reopened {events later : List ServiceEvent} {client : ClientId}
    (fresh : FreshIds (events ++ later)) (opened : client ∈ events.filterMap opened?) :
    client ∉ later.filterMap opened? := by
  intro reopened
  unfold FreshIds at fresh
  rw [List.filterMap_append, List.nodup_append] at fresh
  exact fresh.2.2 client opened client reopened rfl

end ServiceEvent

/-! ## What an event asks of a seat -/

namespace Seating

open ServiceEvent

variable (seating : Seating) (client : ClientId)

def after (seating : Seating) (events : List ServiceEvent) : Seating :=
  (events.filterMap move?).foldl perform seating

theorem after_append (events more : List ServiceEvent) :
    seating.after (events ++ more) = (seating.after events).after more := by
  simp [after]

theorem after_of_still {event : ServiceEvent} (still : event.move? = none) :
    seating.after [event] = seating := by
  simp [after, still]

theorem after_of_move {event : ServiceEvent} {move : GatewayEvent}
    (asked : event.move? = some move) : seating.after [event] = seating.perform move := by
  simp [after, asked]

theorem get?_after_of_connect (space : Space) (outbox : Outbox) :
    (seating.after [.connect client space outbox]).get? client = some { space } :=
  (Table.get?_set seating client client _).trans (if_pos rfl)

theorem get?_after_of_login (identity : Identity) :
    (seating.after [.login client (.ok identity)]).get? client =
      (seating.get? client).map fun seat => seat.authenticate identity :=
  (Table.get?_modify seating client client _).trans (if_pos rfl)

theorem get?_after_of_other {client : ClientId} {event : ServiceEvent}
    (other : event.actor? ≠ some client) :
    (seating.after [event]).get? client = seating.get? client := by
  cases asked : event.move? with
  | none => rw [seating.after_of_still asked]
  | some move =>
      have mover : move.mover? ≠ some client := by
        rw [mover_of_move asked]
        exact other
      rw [seating.after_of_move asked]
      exact (seating.framed move).others client mover

end Seating

/-! ## What an event does -/

theorem Observers.answer_of_letter {observers : Observers} {movements : List Movement}
    {letter : Letter} (sent : letter ∈ observers.letters movements) :
    ∃ movement ∈ movements, (∃ member ∈ movement.members, member.client = letter.recipient) ∧
      (letter.message = .onlineEditors
          ⟨movement.room.resource, Presence.editors movement.members⟩ ∨
        letter.message = .leaveEdit movement.client.text) := by
  rcases List.mem_flatMap.mp sent with ⟨movement, moved, answered⟩
  refine ⟨movement, moved, ?_⟩
  have addressed : ∀ message, letter ∈ Presence.toAll movement.members message →
      (∃ member ∈ movement.members, member.client = letter.recipient) ∧
        letter.message = message := by
    intro message sent
    rcases List.mem_map.mp sent with ⟨member, present, rfl⟩
    exact ⟨⟨member, present, rfl⟩, rfl⟩
  unfold lettersOf at answered
  split at answered
  · rename_i observer watching
    cases observer with
    | snapshot => exact (addressed _ answered).imp_right .inl
    | departure =>
        cases movement with
        | left room client members => exact (addressed _ answered).imp_right .inr
        | joined room client members => cases answered
  · cases answered

namespace Gateway

def Report.answering {α β : Type} (report : Report α) (answer : β) : Report β :=
  ⟨answer, report.gateway, report.movements, report.postings⟩

def serve (gateway : Gateway) : ServiceEvent → Report (List (ClientId × Bool))
  | .connect client space outbox => ⟨[], gateway.connect client space outbox, [], []⟩
  | .login client found =>
      let report := gateway.login client found
      report.answering [(client, report.answer)]
  | .frame client space message => (gateway.dispatch client space message).answering []
  | .disconnect client => (gateway.disconnect client).answering []
  | .change lookup arrangement change =>
      (gateway.fanOut lookup arrangement.order change).answering []
  | .drain client => ⟨[], gateway.drain client, [], []⟩
  | .closeOutbox client => ⟨[], gateway.closeOutbox client, [], []⟩

theorem answer_of_attempt (gateway : Gateway) {event : ServiceEvent} {client : ClientId}
    {identity : Identity} (attempt : event.move? = some (.authenticate client identity)) :
    (gateway.serve event).answer =
      [(client, (gateway.registry.authenticate client identity).answer)] := by
  cases event with
  | login known found =>
      cases found with
      | error error => cases attempt
      | ok found => cases attempt; rfl
  | frame sender space message => cases message <;> cases attempt
  | _ => cases attempt

theorem fanOut_gateway (gateway : Gateway) (lookup : ThreadLookup)
    (arrange : List ClientId → List ClientId) (change : Change) :
    (gateway.fanOut lookup arrange change).gateway.registry = gateway.registry ∧
      (gateway.fanOut lookup arrange change).gateway.observers = gateway.observers := by
  cases routed : FanOut.routed lookup change with
  | error reason =>
      rw [fanOut_of_dropped routed]
      exact ⟨rfl, rfl⟩
  | ok addressed =>
      rw [fanOut_of_routed routed]
      split <;> exact ⟨rfl, rfl⟩

theorem dispatch_pointer_gateway (gateway : Gateway) (client : ClientId) (space : Space)
    (pointer : PointerEvent) :
    (gateway.dispatch client space (.mousePointer pointer)).gateway.registry =
        gateway.registry ∧
      (gateway.dispatch client space (.mousePointer pointer)).gateway.observers =
        gateway.observers := by
  cases space with
  | app => exact ⟨rfl, rfl⟩
  | page => exact ⟨gateway.relay_registry client pointer, gateway.relay_observers client pointer⟩

def moved (registry : Registry) : GatewayEvent → Registry
  | .connect client space _ => registry.connect client space
  | .authenticate client identity => (registry.authenticate client identity).registry
  | .requestJoin client room => (registry.requestJoin client room).registry
  | .leave client room => (registry.leave client room).registry
  | .disconnect client => (registry.disconnect client).registry
  | _ => registry

theorem perform_registry (gateway : Gateway) (event : GatewayEvent) :
    (gateway.perform event).gateway.registry = moved gateway.registry event := by
  cases event with
  | relay client pointer => exact gateway.relay_registry client pointer
  | _ => rfl

theorem serve_registry (gateway : Gateway) (event : ServiceEvent) :
    (gateway.serve event).gateway.registry =
      (event.move?.map (moved gateway.registry)).getD gateway.registry := by
  cases event with
  | login client found => cases found <;> rfl
  | frame client space message =>
      cases message with
      | mousePointer pointer => exact (gateway.dispatch_pointer_gateway client space pointer).1
      | _ => rfl
  | change lookup arrangement change =>
      exact (gateway.fanOut_gateway lookup arrangement.order change).1
  | _ => rfl

theorem serve_observers (gateway : Gateway) (event : ServiceEvent) :
    (gateway.serve event).gateway.observers = gateway.observers := by
  cases event with
  | login client found => cases found <;> rfl
  | frame client space message =>
      cases message with
      | mousePointer pointer => exact (gateway.dispatch_pointer_gateway client space pointer).2
      | _ => rfl
  | change lookup arrangement change =>
      exact (gateway.fanOut_gateway lookup arrangement.order change).2
  | _ => rfl

theorem serve_movements (gateway : Gateway) (event : ServiceEvent) :
    (gateway.serve event).movements =
      (event.move?.map fun move => (gateway.perform move).movements).getD [] := by
  cases event with
  | login client found => cases found <;> rfl
  | frame client space message =>
      cases message with
      | mousePointer pointer =>
          cases space with
          | app => rfl
          | page => exact gateway.relay_movements client pointer
      | _ => rfl
  | _ => rfl

theorem serve_shifts {gateway : Gateway} (wellFormed : gateway.registry.WellFormed)
    {event : ServiceEvent} (opens : event.opened? = none) :
    Registry.Shifts gateway.registry (gateway.serve event).movements
      (gateway.serve event).gateway.registry := by
  rw [serve_movements, serve_registry]
  cases asked : event.move? with
  | none => exact .still gateway.registry
  | some move =>
      have unopened : move.opened? = none := by
        rw [← opens, ← event.opened_of_move, asked]
        rfl
      have shifts := perform_shifts wellFormed unopened
      rw [perform_registry] at shifts
      exact shifts

/-- What is offered answers a movement, or passes a pointer on, or tells of a change. -/
theorem source_of_posting {gateway : Gateway} {event : ServiceEvent} {posting : Posting}
    (posted : posting ∈ (gateway.serve event).postings) :
    posting.letter ∈ gateway.observers.letters (gateway.serve event).movements ∨
      (∃ sender pointer, event = .frame sender .page (.mousePointer pointer) ∧
        posting ∈ (gateway.relay sender pointer).postings) ∨
      ∃ lookup arrangement change, event = .change lookup arrangement change ∧
        posting ∈ (gateway.fanOut lookup arrangement.order change).postings := by
  cases event with
  | login client found =>
      cases found with
      | error error => cases posted
      | ok identity => exact .inl (Outboxes.letter_of_posting posted)
  | frame client space message =>
      cases message with
      | mousePointer pointer =>
          cases space with
          | app => cases posted
          | page => exact .inr (.inl ⟨client, pointer, rfl, posted⟩)
      | _ => exact .inl (Outboxes.letter_of_posting posted)
  | disconnect client => exact .inl (Outboxes.letter_of_posting posted)
  | change lookup arrangement change =>
      exact .inr (.inr ⟨lookup, arrangement, change, rfl, posted⟩)
  | _ => cases posted

end Gateway

/-! ## What happened so far -/

structure Chronicle where
  gateway : Gateway := {}
  postings : List Posting := []
  /-- Every attempt to attach an identity to a connection, and whether it was attached. -/
  logins : List (ClientId × Bool) := []

namespace Chronicle

open ServiceEvent

def record (chronicle : Chronicle) (event : ServiceEvent) : Chronicle where
  gateway := (chronicle.gateway.serve event).gateway
  postings := chronicle.postings ++ (chronicle.gateway.serve event).postings
  logins := chronicle.logins ++ (chronicle.gateway.serve event).answer

def of (observers : Observers) (events : List ServiceEvent) : Chronicle :=
  events.foldl record { gateway := (Journal.of observers []).gateway }

theorem of_concat (observers : Observers) (events : List ServiceEvent) (event : ServiceEvent) :
    of observers (events ++ [event]) = (of observers events).record event := by
  simp [of, List.foldl_append]

theorem of_observers (observers : Observers) (events : List ServiceEvent) :
    (of observers events).gateway.observers = observers := by
  induction events using List.reverseRecOn with
  | nil => rfl
  | append_singleton events event induction =>
      rw [of_concat]
      exact (Gateway.serve_observers _ event).trans induction

theorem registry_of (observers : Observers) (events : List ServiceEvent) :
    (of observers events).gateway.registry =
      (Journal.of observers (events.filterMap move?)).gateway.registry := by
  induction events using List.reverseRecOn with
  | nil => rfl
  | append_singleton events event induction =>
      rw [of_concat, List.filterMap_append, record, Gateway.serve_registry, induction]
      cases asked : event.move? with
      | none => simp [asked]
      | some move => simp [asked, Journal.of_concat, Journal.record, Gateway.perform_registry]

theorem wellFormed (observers : Observers) {events : List ServiceEvent}
    (fresh : FreshIds events) : (of observers events).gateway.registry.WellFormed := by
  rw [registry_of]
  exact Journal.wellFormed observers fresh.moves

theorem opened_of_live (observers : Observers) {events : List ServiceEvent}
    (fresh : FreshIds events) {client : ClientId}
    (live : (of observers events).gateway.registry.profileOf client ≠ none) :
    client ∈ events.filterMap opened? := by
  rw [registry_of] at live
  rw [← opened_of_moves]
  exact Journal.opened_of_live observers fresh.moves live

theorem seated (observers : Observers) {events : List ServiceEvent} (fresh : FreshIds events) :
    (of observers events).gateway.registry.Seated (Seating.after {} events) := by
  rw [registry_of]
  exact Journal.seated observers fresh.moves

end Chronicle

end SharedEditing
