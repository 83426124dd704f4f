import SharedEditing.Proofs.Gateway.Journal
import SharedEditing.Proofs.Registry.Seating

/-! # Seats along a run

The seating of a run follows from its events alone, one change of one seat at a time.
After any run the registry shows exactly this seating. -/

namespace SharedEditing

def GatewayEvent.mover? : GatewayEvent → Option ClientId
  | connect client _ _ => some client
  | authenticate client _ => some client
  | requestJoin client _ => some client
  | leave client _ => some client
  | disconnect client => some client
  | _ => none

namespace Seating

def perform (seating : Seating) : GatewayEvent → Seating
  | .connect client space _ => seating.connect client space
  | .authenticate client identity => (seating.authenticate client identity).2
  | .requestJoin client room => (seating.requestJoin client room).2
  | .leave client room => seating.leave client room
  | .disconnect client => seating.disconnect client
  | _ => seating

def of (events : List GatewayEvent) : Seating := events.foldl perform {}

theorem of_concat (events : List GatewayEvent) (event : GatewayEvent) :
    of (events ++ [event]) = (of events).perform event := by
  simp [of, List.foldl_append]

/-! ## What an event leaves alone -/

/-- An event changes one seat at most, and in it one family at most. -/
structure Framed (seating : Seating) (event : GatewayEvent) : Prop where
  others : ∀ client, event.mover? ≠ some client →
    (seating.perform event).get? client = seating.get? client
  absent : ∀ client, event.opened? = none → event.mover? = some client →
    seating.get? client = none → seating.perform event = seating
  families : ∀ client room space,
    event = .requestJoin client room ∨ event = .leave client room → space ≠ room.space →
      ((seating.perform event).get? client).map (fun seat => seat.current space) =
        (seating.get? client).map fun seat => seat.current space
  replays : ∀ client identity space, event = .authenticate client identity →
    (∀ room, seating.parkedRoom client = some room → space ≠ room.space) →
      ((seating.perform event).get? client).map (fun seat => seat.current space) =
        (seating.get? client).map fun seat => seat.current space
  refused : ∀ client identity, event = .authenticate client identity →
    (seating.authenticate client identity).1 = false → seating.perform event = seating

end Seating

namespace Seat

variable (seat : Seat) {room : Room} {space : Space}

theorem current_request (different : space ≠ room.space) :
    (seat.request room).current space = seat.current space := by
  unfold request join sit
  split <;> simp [different]

theorem current_leave (different : space ≠ room.space) :
    (seat.leave room).current space = seat.current space := by
  unfold leave vacate withdraw sit
  split <;> split <;> simp [different]

theorem current_authenticate (identity : Identity)
    (different : ∀ room, seat.pending = some room → space ≠ room.space) :
    (seat.authenticate identity).current space = seat.current space := by
  unfold authenticate identify join sit
  split
  · rfl
  · cases pending : seat.pending with
    | none => rfl
    | some room => simp [different room pending]

end Seat

namespace Seating

theorem current_modify (seating : Seating) (client : ClientId) {change : Seat → Seat}
    {space : Space}
    (kept : ∀ seat, seating.get? client = some seat →
      (change seat).current space = seat.current space) :
    ((seating.modify client change).get? client).map (fun seat => seat.current space) =
      (seating.get? client).map fun seat => seat.current space := by
  rw [Table.get?_modify, if_pos rfl]
  cases found : seating.get? client with
  | none => rfl
  | some seat => simp [kept seat found]

theorem framed (seating : Seating) (event : GatewayEvent) : seating.Framed event where
  others client different := by
    have other : ∀ mover, event.mover? = some mover → mover ≠ client := by
      intro mover moves same
      exact different (same ▸ moves)
    cases event with
    | connect opened space outbox =>
        exact (seating.get?_set opened client _).trans (if_neg (other opened rfl))
    | authenticate known identity => exact seating.get?_modify_of_ne _ (other known rfl)
    | requestJoin asking room => exact seating.get?_modify_of_ne _ (other asking rfl)
    | leave leaving room => exact seating.get?_modify_of_ne _ (other leaving rfl)
    | disconnect gone => exact (seating.get?_erase gone client).trans (if_neg (other gone rfl))
    | _ => rfl
  absent client opens mover unknown := by
    cases event with
    | connect opened space outbox => cases opens
    | authenticate known identity =>
        cases mover
        exact Table.modify_of_get?_eq_none unknown _
    | requestJoin asking room =>
        cases mover
        exact Table.modify_of_get?_eq_none unknown _
    | leave leaving room =>
        cases mover
        exact Table.modify_of_get?_eq_none unknown _
    | disconnect gone =>
        cases mover
        exact Table.erase_of_get?_eq_none unknown
    | _ => cases mover
  families client room space acts different := by
    rcases acts with rfl | rfl
    · exact seating.current_modify client fun seat _ => seat.current_request different
    · exact seating.current_modify client fun seat _ => seat.current_leave different
  replays client identity space acts different := by
    subst acts
    apply seating.current_modify client
    intro seat found
    apply seat.current_authenticate identity
    intro room pending
    apply different room
    rw [parkedRoom, found]
    exact pending
  refused client identity acts answer := by
    subst acts
    apply Table.modify_of_fixed
    intro seat found
    simp only [authenticate, found, Option.any_some, Option.isNone_eq_false_iff] at answer
    exact if_pos answer

end Seating

/-! ## The registry of a run -/

open GatewayEvent

theorem Gateway.perform_seated {gateway : Gateway} (wellFormed : gateway.registry.WellFormed)
    {seating : Seating} (seated : gateway.registry.Seated seating) (event : GatewayEvent) :
    (gateway.perform event).gateway.registry.Seated (seating.perform event) := by
  cases event with
  | connect client space outbox => exact seated.connect client space
  | authenticate client identity =>
      exact seated.modify (gateway.registry.reseated_authenticate client identity)
  | requestJoin client room =>
      exact seated.modify (gateway.registry.reseated_requestJoin client room)
  | leave client room => exact seated.modify (Registry.reseated_leave wellFormed client room)
  | disconnect client => exact seated.disconnect client
  | relay client pointer =>
      have same := gateway.relay_registry client pointer
      simp only [perform, Report.unanswered, same]
      exact seated
  | _ => exact seated

namespace Journal

theorem seated (observers : Observers) {events : List GatewayEvent} (fresh : FreshIds events) :
    (of observers events).gateway.registry.Seated (Seating.of events) := by
  induction events using List.reverseRecOn with
  | nil => exact fun _ => rfl
  | append_singleton events event induction =>
      rw [of_concat, Seating.of_concat]
      exact Gateway.perform_seated (wellFormed observers fresh.of_concat)
        (induction fresh.of_concat) event

/-- Whatever happens, the registry shows the seating of what happened, and every event
changes one seat at most. -/
theorem shows_seating (observers : Observers) {events : List GatewayEvent}
    (fresh : FreshIds events) :
    (of observers events).gateway.registry.Shows (Seating.of events) ∧
      ∀ event, (Seating.of events).Framed event :=
  ⟨(seated observers fresh).shows (wellFormed observers fresh), (Seating.of events).framed⟩

/-- A request that waits is withdrawn, another is carried out, and a third one switches. -/
theorem shows_seating_of_switch :
    let events : List GatewayEvent :=
      [.connect ⟨"a"⟩ .page ⟨2, [], true⟩, .requestJoin ⟨"a"⟩ ⟨.app, "1"⟩,
        .leave ⟨"a"⟩ ⟨.app, "1"⟩, .requestJoin ⟨"a"⟩ ⟨.page, "2"⟩,
        .authenticate ⟨"a"⟩ ⟨"Ann", "ann@x"⟩, .requestJoin ⟨"a"⟩ ⟨.page, "3"⟩,
        .leave ⟨"a"⟩ ⟨.app, "3"⟩, .requestJoin ⟨"b"⟩ ⟨.page, "3"⟩]
    FreshIds events ∧
      (of .standard events).gateway.registry.roomsOf ⟨"a"⟩ = [⟨.page, "3"⟩] ∧
      (of .standard events).gateway.registry.Shows (Seating.of events) ∧
        ∀ event, (Seating.of events).Framed event :=
  ⟨by decide, by decide, shows_seating .standard (by decide)⟩

end Journal

end SharedEditing
