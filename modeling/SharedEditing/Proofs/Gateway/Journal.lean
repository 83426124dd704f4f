import Mathlib.Data.List.Induction
import SharedEditing.Gateway.Basic
import SharedEditing.Proofs.Registry.Operations

/-! # Journals

What may happen at a gateway, in any order, and what comes of it: the gateway after
all that happened, every movement reported and every letter offered on the way. The
identifiers of connections are drawn afresh, so no two connections of a run have the
same. -/

namespace SharedEditing

inductive GatewayEvent where
  | connect (client : ClientId) (space : Space) (outbox : Outbox)
  | authenticate (client : ClientId) (identity : Identity)
  | requestJoin (client : ClientId) (room : Room)
  | leave (client : ClientId) (room : Room)
  | disconnect (client : ClientId)
  | relay (client : ClientId) (pointer : PointerEvent)
  | emit (room : Room) (sender : ClientId) (message : ServerMessage)
  | deliver (audience : Audience) (notice : Notice)
  | drain (client : ClientId)
  | closeOutbox (client : ClientId)

namespace GatewayEvent

def opened? : GatewayEvent → Option ClientId
  | connect client _ _ => some client
  | _ => none

def FreshIds (events : List GatewayEvent) : Prop := (events.filterMap opened?).Nodup

instance (events : List GatewayEvent) : Decidable (FreshIds events) :=
  inferInstanceAs (Decidable (events.filterMap opened?).Nodup)

theorem FreshIds.of_concat {events : List GatewayEvent} {event : GatewayEvent}
    (fresh : FreshIds (events ++ [event])) : FreshIds events := by
  unfold FreshIds at fresh ⊢
  rw [List.filterMap_append] at fresh
  exact fresh.of_append_left

theorem FreshIds.not_opened {events : List GatewayEvent} {event : GatewayEvent} {client : ClientId}
    (fresh : FreshIds (events ++ [event])) (opens : event.opened? = some client) :
    client ∉ events.filterMap opened? := by
  intro before
  unfold FreshIds at fresh
  rw [List.filterMap_append, List.nodup_append] at fresh
  exact fresh.2.2 client before client (by simp [opens]) rfl

end GatewayEvent

/-! ## What an event does -/

theorem Outboxes.map_letter_post (outboxes : Outboxes) (letters : List Letter) :
    (outboxes.post letters).2.map Posting.letter = letters := by
  induction letters generalizing outboxes with
  | nil => rfl
  | cons letter rest induction =>
      simp only [post, List.map_cons]
      rw [induction]

theorem Outboxes.letter_of_posting {outboxes : Outboxes} {letters : List Letter}
    {posting : Posting} (posted : posting ∈ (outboxes.post letters).2) :
    posting.letter ∈ letters := by
  rw [← outboxes.map_letter_post letters]
  exact List.mem_map_of_mem posted

namespace Gateway

def Report.unanswered {α : Type} (report : Report α) : Report Unit :=
  ⟨(), report.gateway, report.movements, report.postings⟩

def perform (gateway : Gateway) : GatewayEvent → Report Unit
  | .connect client space outbox => ⟨(), gateway.connect client space outbox, [], []⟩
  | .authenticate client identity => (gateway.authenticate client identity).unanswered
  | .requestJoin client room => (gateway.requestJoin client room).unanswered
  | .leave client room => gateway.leave client room
  | .disconnect client => gateway.disconnect client
  | .relay client pointer => (gateway.relay client pointer).unanswered
  | .emit room sender message => (gateway.emitExcept room sender message).unanswered
  | .deliver audience notice => (gateway.deliver audience notice).unanswered
  | .drain client => ⟨(), gateway.drain client, [], []⟩
  | .closeOutbox client => ⟨(), gateway.closeOutbox client, [], []⟩

theorem relay_registry (gateway : Gateway) (client : ClientId) (pointer : PointerEvent) :
    (gateway.relay client pointer).gateway.registry = gateway.registry := by
  unfold relay
  split <;> rfl

theorem relay_observers (gateway : Gateway) (client : ClientId) (pointer : PointerEvent) :
    (gateway.relay client pointer).gateway.observers = gateway.observers := by
  unfold relay
  split <;> rfl

theorem relay_movements (gateway : Gateway) (client : ClientId) (pointer : PointerEvent) :
    (gateway.relay client pointer).movements = [] := by
  unfold relay
  split <;> rfl

theorem of_stampedPointer {registry : Registry} {client : ClientId} {pointer : PointerEvent}
    {room : Room} {message : ServerMessage}
    (stamped : stampedPointer registry client pointer = some (room, message)) :
    ∃ identity, registry.senderContext client .page = some (identity, room) ∧
      message = .mousePointer (pointer.stamped identity client.text) := by
  rw [stampedPointer] at stamped
  simp only [Option.bind_eq_bind, Option.bind_eq_some_iff] at stamped
  rcases stamped with ⟨⟨identity, place⟩, context, same⟩
  cases same
  exact ⟨identity, context, rfl⟩

theorem of_emitted {gateway : Gateway} {client : ClientId} {room : Room}
    {message : ServerMessage} {posting : Posting}
    (emitted : posting ∈ (gateway.emitExcept room client message).postings) :
    posting.letter.message = message ∧ posting.letter.recipient ≠ client ∧
      ∃ member ∈ gateway.registry.members room, member.client = posting.letter.recipient := by
  rcases List.mem_map.mp (Outboxes.letter_of_posting emitted) with ⟨member, listed, same⟩
  rcases List.mem_filter.mp listed with ⟨present, other⟩
  rw [← same]
  exact ⟨rfl, by simpa using other, member, present, rfl⟩

theorem of_relayed {gateway : Gateway} {client : ClientId} {pointer : PointerEvent}
    {posting : Posting} (relayed : posting ∈ (gateway.relay client pointer).postings) :
    ∃ identity room, gateway.registry.senderContext client .page = some (identity, room) ∧
      posting ∈ (gateway.emitExcept room client
        (.mousePointer (pointer.stamped identity client.text))).postings := by
  rw [relay] at relayed
  cases stamped : stampedPointer gateway.registry client pointer with
  | none =>
      rw [stamped] at relayed
      cases relayed
  | some pair =>
      obtain ⟨room, message⟩ := pair
      rcases of_stampedPointer stamped with ⟨identity, context, rfl⟩
      rw [stamped] at relayed
      exact ⟨identity, room, context, relayed⟩

theorem perform_observers (gateway : Gateway) (event : GatewayEvent) :
    (gateway.perform event).gateway.observers = gateway.observers := by
  cases event with
  | relay client pointer => exact gateway.relay_observers client pointer
  | _ => rfl

theorem perform_shifts {gateway : Gateway} (wellFormed : gateway.registry.WellFormed)
    {event : GatewayEvent} (opens : event.opened? = none) :
    Registry.Shifts gateway.registry (gateway.perform event).movements
      (gateway.perform event).gateway.registry := by
  cases event with
  | connect client space outbox => cases opens
  | authenticate client identity =>
      exact Registry.authenticate_shifts wellFormed client identity
  | requestJoin client room => exact Registry.requestJoin_shifts wellFormed client room
  | leave client room => exact Registry.leave_shifts wellFormed client room
  | disconnect client => exact Registry.disconnect_shifts wellFormed client
  | relay client pointer =>
      have same := gateway.relay_registry client pointer
      have still := gateway.relay_movements client pointer
      simp only [perform, Report.unanswered, same, still]
      exact .still gateway.registry
  | emit room sender message => exact .still gateway.registry
  | deliver audience notice => exact .still gateway.registry
  | drain client => exact .still gateway.registry
  | closeOutbox client => exact .still gateway.registry

end Gateway

/-! ## What happened so far -/

structure Journal where
  gateway : Gateway := {}
  movements : List Movement := []
  postings : List Posting := []

namespace Journal

def record (journal : Journal) (event : GatewayEvent) : Journal where
  gateway := (journal.gateway.perform event).gateway
  movements := journal.movements ++ (journal.gateway.perform event).movements
  postings := journal.postings ++ (journal.gateway.perform event).postings

def of (observers : Observers) (events : List GatewayEvent) : Journal :=
  events.foldl record { gateway := { observers } }

theorem of_concat (observers : Observers) (events : List GatewayEvent) (event : GatewayEvent) :
    of observers (events ++ [event]) = (of observers events).record event := by
  simp [of, List.foldl_append]

theorem of_observers (observers : Observers) (events : List GatewayEvent) :
    (of observers events).gateway.observers = observers := by
  induction events using List.reverseRecOn with
  | nil => rfl
  | append_singleton events event induction =>
      rw [of_concat]
      exact (Gateway.perform_observers _ event).trans induction

open GatewayEvent

/-- Registries of journals are well formed, and their connections were opened. Each
half needs the other: an identifier that was not drawn before has no connection. -/
private theorem wellFormed_and_opened (observers : Observers) {events : List GatewayEvent}
    (fresh : FreshIds events) :
    (of observers events).gateway.registry.WellFormed ∧
      ∀ client, (of observers events).gateway.registry.profileOf client ≠ none →
        client ∈ events.filterMap opened? := by
  induction events using List.reverseRecOn with
  | nil => exact ⟨.empty, fun client live => False.elim (live rfl)⟩
  | append_singleton events event induction =>
      rcases induction fresh.of_concat with ⟨wellFormed, opened⟩
      rw [of_concat]
      cases opens : event.opened? with
      | none =>
          have shifts := Gateway.perform_shifts wellFormed opens
          refine ⟨wellFormed.shifts shifts, fun client live => ?_⟩
          rw [List.filterMap_append]
          exact List.mem_append_left _ (opened client (shifts.existed live))
      | some drawn =>
          cases event with
          | connect client space outbox =>
              cases opens
              have unknown : (of observers events).gateway.registry.profileOf drawn = none := by
                by_contra live
                exact fresh.not_opened rfl (opened drawn live)
              refine ⟨wellFormed.connect space unknown, fun client live => ?_⟩
              change ((of observers events).gateway.registry.connect drawn space).profileOf
                client ≠ none at live
              rw [List.filterMap_append, List.mem_append]
              by_cases same : drawn = client
              · exact .inr (by simp [GatewayEvent.opened?, same])
              · rw [Registry.profileOf_connect, if_neg same] at live
                exact .inl (opened client live)
          | _ => cases opens

theorem wellFormed (observers : Observers) {events : List GatewayEvent}
    (fresh : FreshIds events) : (of observers events).gateway.registry.WellFormed :=
  (wellFormed_and_opened observers fresh).1

theorem opened_of_live (observers : Observers) {events : List GatewayEvent}
    (fresh : FreshIds events) {client : ClientId}
    (live : (of observers events).gateway.registry.profileOf client ≠ none) :
    client ∈ events.filterMap opened? :=
  (wellFormed_and_opened observers fresh).2 client live

theorem unknown_of_fresh (observers : Observers) {events : List GatewayEvent}
    {event : GatewayEvent} (fresh : FreshIds (events ++ [event])) {client : ClientId}
    (opens : event.opened? = some client) :
    (of observers events).gateway.registry.profileOf client = none := by
  by_contra live
  exact fresh.not_opened opens (opened_of_live observers fresh.of_concat live)

end Journal

end SharedEditing
