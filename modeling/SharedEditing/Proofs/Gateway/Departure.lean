import SharedEditing.Proofs.Gateway.Agreement
import SharedEditing.Proofs.Gateway.Invisibility

/-! # Work for a connection that is gone

A connection may close while its session is still being found out, or while frames of it
are under way. What comes late is about nobody: it is answered so, and nothing else comes
of it. From then on no room, no channel and no movement names the connection again, and
nothing more is put into its outbox. -/

namespace SharedEditing

/-! ## Registries that do not know a connection -/

namespace Registry

variable {registry after : Registry} {client : ClientId}

theorem identityOf_of_unknown (unknown : registry.profileOf client = none) :
    registry.identityOf client = none := by
  rw [identityOf_eq, unknown]
  rfl

theorem withdraw_of_unknown (room : Room) (unknown : registry.profileOf client = none) :
    registry.withdraw client room = registry := by
  unfold withdraw
  rw [parkedRoom_eq, unknown]
  exact if_neg nofun

theorem WellFormed.leave_of_unknown (wellFormed : registry.WellFormed) (room : Room)
    (unknown : registry.profileOf client = none) :
    registry.leave client room = ⟨(), registry, []⟩ := by
  have absent := wellFormed.absent (identityOf_of_unknown unknown) room
  rw [wellFormed.leave_of_absent absent, withdraw_of_unknown room unknown]

theorem profileOf_disconnect (registry : Registry) (client : ClientId) :
    (registry.disconnect client).registry.profileOf client = none := by
  cases profile : registry.profileOf client with
  | none =>
      rw [disconnect_of_unknown profile]
      exact profile
  | some pair =>
      rw [disconnect_of_profileOf profile]
      exact (profileOf_forget _ client client pair.2).trans (if_pos rfl)

theorem Shift.mover_existed (wellFormed : registry.WellFormed) {movements : List Movement}
    (shift : Shift registry movements after) {movement : Movement} (moved : movement ∈ movements) :
    registry.profileOf movement.client ≠ none := by
  cases shift with
  | left member =>
      rcases List.mem_singleton.mp moved with rfl
      rcases wellFormed.known_member member with ⟨space, identity, known⟩
      simp [Movement.client, known]
  | entered known free =>
      rcases List.mem_singleton.mp moved with rfl
      simp [Movement.client, known]
  | _ => cases moved

theorem Shifts.mover_existed (wellFormed : registry.WellFormed) {movements : List Movement}
    (shifts : Shifts registry movements after) {movement : Movement}
    (moved : movement ∈ movements) : registry.profileOf movement.client ≠ none := by
  induction shifts with
  | still => cases moved
  | more shift _ induction =>
      rcases List.mem_append.mp moved with first | later
      · exact shift.mover_existed wellFormed first
      · exact shift.existed (induction (wellFormed.shift shift) later)

end Registry

/-! ## What is asked for a connection that is gone -/

namespace Gateway

variable {gateway : Gateway} {client : ClientId}

/-- Whatever is asked for a connection is answered as for nobody. Nothing changes, nobody
moves and nothing is offered. -/
structure Ignores (gateway : Gateway) (client : ClientId) : Prop where
  authenticate : ∀ identity, gateway.authenticate client identity = ⟨false, gateway, [], []⟩
  login : ∀ found, gateway.login client found = ⟨false, gateway, [], []⟩
  requestJoin : ∀ room, gateway.requestJoin client room = ⟨.disconnected, gateway, [], []⟩
  leave : ∀ room, gateway.leave client room = ⟨(), gateway, [], []⟩
  disconnect : gateway.disconnect client = ⟨(), gateway, [], []⟩
  relay : ∀ pointer, gateway.relay client pointer = ⟨0, gateway, [], []⟩
  dispatch : ∀ space message, gateway.dispatch client space message = ⟨(), gateway, [], []⟩

theorem carryOut_still {α : Type} (gateway : Gateway) (answer : α) :
    gateway.carryOut ⟨answer, gateway.registry, []⟩ = ⟨answer, gateway, [], []⟩ := rfl

theorem ignores_of_unknown (wellFormed : gateway.registry.WellFormed)
    (unknown : gateway.registry.profileOf client = none) : gateway.Ignores client := by
  have authenticate (identity : Identity) :
      gateway.authenticate client identity = ⟨false, gateway, [], []⟩ := by
    unfold Gateway.authenticate
    rw [Registry.authenticate_of_unknown identity unknown, carryOut_still]
  have requestJoin (room : Room) :
      gateway.requestJoin client room = ⟨.disconnected, gateway, [], []⟩ := by
    unfold Gateway.requestJoin
    rw [Registry.requestJoin_of_unknown room unknown, carryOut_still]
  have leave (room : Room) : gateway.leave client room = ⟨(), gateway, [], []⟩ := by
    unfold Gateway.leave
    rw [wellFormed.leave_of_unknown room unknown, carryOut_still]
  have disconnect : gateway.disconnect client = ⟨(), gateway, [], []⟩ := by
    unfold Gateway.disconnect
    rw [Registry.disconnect_of_unknown unknown, carryOut_still]
  have relay := relay_of_unidentified (Registry.identityOf_of_unknown unknown)
  refine ⟨authenticate, fun found => ?login, requestJoin, leave, disconnect, relay,
    fun space message => ?dispatch⟩
  case login =>
    cases found with
    | ok identity => exact authenticate identity
    | error error => rfl
  case dispatch =>
    cases message with
    | startEdit resource => simp only [Gateway.dispatch, requestJoin]
    | leaveEdit resource => exact leave ⟨space, resource⟩
    | mousePointer pointer =>
        cases space with
        | app => rfl
        | page => simp only [Gateway.dispatch, relay]

/-! ## What the others do meanwhile -/

theorem offersTo_perform (wellFormed : gateway.registry.WellFormed) (event : GatewayEvent) :
    (gateway.perform event).OffersTo gateway.registry := by
  have answered (opens : event.opened? = none)
      (letters : ∀ posting ∈ (gateway.perform event).postings,
        posting.letter ∈ gateway.observers.letters (gateway.perform event).movements) :
      (gateway.perform event).OffersTo gateway.registry := by
    intro posting posted
    rcases Observers.answer_of_letter (letters posting posted) with
      ⟨movement, moved, ⟨member, told, same⟩, _⟩
    rw [← same]
    exact (perform_shifts wellFormed opens).told moved told
  cases event with
  | authenticate known identity => exact answered rfl fun _ => Outboxes.letter_of_posting
  | requestJoin asking room => exact answered rfl fun _ => Outboxes.letter_of_posting
  | leave leaving room => exact answered rfl fun _ => Outboxes.letter_of_posting
  | disconnect gone => exact answered rfl fun _ => Outboxes.letter_of_posting
  | relay sender pointer => exact gateway.offersTo_relay sender pointer
  | emit room sender message => exact gateway.offersTo_emitExcept room sender message
  | deliver audience notice =>
      intro posting posted
      rcases List.mem_map.mp (Outboxes.letter_of_posting posted) with ⟨target, served, same⟩
      unfold targets at served
      rw [List.mem_eraseDups, List.mem_filter] at served
      rw [← same]
      exact (gateway.registry.isLive_iff _).mp served.2
  | _ => exact fun posting posted => nomatch posted

theorem profileOf_perform (wellFormed : gateway.registry.WellFormed)
    (unknown : gateway.registry.profileOf client = none) {event : GatewayEvent}
    (unopened : event.opened? ≠ some client) :
    (gateway.perform event).gateway.registry.profileOf client = none := by
  cases opens : event.opened? with
  | none =>
      by_contra live
      exact (perform_shifts wellFormed opens).existed live unknown
  | some opened =>
      cases event with
      | connect other space outbox =>
          cases opens
          have different : opened ≠ client := fun same => unopened (congrArg some same)
          exact (Registry.profileOf_connect _ opened client space).trans
            ((if_neg different).trans unknown)
      | _ => cases opens

end Gateway

/-! ## Outboxes that nothing is offered to -/

theorem Outboxes.get?_post_of_others (outboxes : Outboxes) {letters : List Letter}
    {client : ClientId} (others : ∀ letter ∈ letters, letter.recipient ≠ client) :
    (post outboxes letters).1.get? client = outboxes.get? client := by
  induction letters generalizing outboxes with
  | nil => rfl
  | cons letter rest induction =>
      simp only [post]
      rw [induction _ fun other member => others other (.tail letter member)]
      exact outboxes.get?_modify_of_ne _ (others letter (.head rest))

namespace Gateway

variable {gateway : Gateway} {client : ClientId}

theorem waiting_post (gateway : Gateway) {letters : List Letter}
    (others : ∀ posting ∈ (gateway.post letters).2, posting.letter.recipient ≠ client) :
    (gateway.post letters).1.waiting client = gateway.waiting client := by
  have unaddressed : ∀ letter ∈ letters, letter.recipient ≠ client := by
    intro letter sent
    rw [← gateway.outboxes.map_letter_post letters] at sent
    rcases List.mem_map.mp sent with ⟨posting, posted, rfl⟩
    exact others posting posted
  unfold waiting post
  simp only [gateway.outboxes.get?_post_of_others unaddressed]

theorem waiting_modify (other : ClientId) {change : Outbox → Outbox}
    (emptied : ∀ outbox, (change outbox).waiting = []) :
    (({ gateway with outboxes := gateway.outboxes.modify other change } : Gateway).waiting
      client).Sublist (gateway.waiting client) := by
  unfold waiting
  simp only [Table.get?_modify]
  split
  · cases gateway.outboxes.get? client with
    | none => exact .refl _
    | some outbox => simp [emptied]
  · exact .refl _

theorem waiting_perform {event : GatewayEvent} (unopened : event.opened? ≠ some client)
    (others : ∀ posting ∈ (gateway.perform event).postings, posting.letter.recipient ≠ client) :
    ((gateway.perform event).gateway.waiting client).Sublist (gateway.waiting client) := by
  have carried {α : Type} {step : Registry.Step α}
      (others : ∀ posting ∈ (gateway.carryOut step).postings,
        posting.letter.recipient ≠ client) :
      (gateway.carryOut step).gateway.waiting client = gateway.waiting client :=
    waiting_post { gateway with registry := step.registry } others
  cases event with
  | connect opened space outbox =>
      have different : opened ≠ client := fun same => unopened (congrArg some same)
      have kept : (gateway.outboxes.set opened outbox).get? client =
          gateway.outboxes.get? client :=
        (Table.get?_set gateway.outboxes opened client outbox).trans (if_neg different)
      simp only [perform, connect, waiting, kept, List.Sublist.refl]
  | authenticate known identity => exact carried others ▸ .refl _
  | requestJoin asking room => exact carried others ▸ .refl _
  | leave leaving room => exact carried others ▸ .refl _
  | disconnect gone => exact carried others ▸ .refl _
  | relay sender pointer =>
      simp only [perform, Report.unanswered, relay] at others ⊢
      split
      · rename_i room message stamped
        simp only [stamped] at others
        exact waiting_post gateway others ▸ .refl _
      · exact .refl _
  | emit room sender message => exact waiting_post gateway others ▸ .refl _
  | deliver audience notice => exact waiting_post gateway others ▸ .refl _
  | drain drained => exact waiting_modify drained fun _ => rfl
  | closeOutbox closed => exact waiting_modify closed fun _ => rfl

end Gateway

/-! ## Connections that stay gone -/

theorem GatewayEvent.FreshIds.not_reopened {events later : List GatewayEvent} {client : ClientId}
    (fresh : FreshIds (events ++ later)) (opened : client ∈ events.filterMap opened?) :
    client ∉ later.filterMap opened? := by
  intro reopened
  unfold FreshIds at fresh
  rw [List.filterMap_append, List.nodup_append] at fresh
  exact fresh.2.2 client opened client reopened rfl

namespace Journal

open GatewayEvent

/-- A connection is gone, and has been since an earlier time. -/
structure GoneSince (client : ClientId) (before after : Journal) : Prop where
  unknown : after.gateway.registry.isLive client = false
  rooms : ∀ room members, after.gateway.registry.rooms.get? room = some members →
    client ∉ members
  channels : ∀ email listeners, after.gateway.registry.channels.get? email = some listeners →
    client ∉ listeners
  /-- No movement was its own, and no observer was given it as a member to list. -/
  movements : ∃ more, after.movements = before.movements ++ more ∧ ∀ movement ∈ more,
    movement.client ≠ client ∧ ∀ member ∈ movement.members, member.client ≠ client
  postings : ∃ more, after.postings = before.postings ++ more ∧ ∀ posting ∈ more,
    posting.letter.recipient ≠ client
  outbox : (after.gateway.waiting client).Sublist (before.gateway.waiting client)

variable {before journal : Journal} {client : ClientId}

theorem GoneSince.of_unknown (wellFormed : journal.gateway.registry.WellFormed)
    (unknown : journal.gateway.registry.profileOf client = none)
    (movements : ∃ more, journal.movements = before.movements ++ more ∧ ∀ movement ∈ more,
      movement.client ≠ client ∧ ∀ member ∈ movement.members, member.client ≠ client)
    (postings : ∃ more, journal.postings = before.postings ++ more ∧ ∀ posting ∈ more,
      posting.letter.recipient ≠ client)
    (outbox : (journal.gateway.waiting client).Sublist (before.gateway.waiting client)) :
    GoneSince client before journal where
  unknown := by
    rw [Bool.eq_false_iff, ne_eq, Registry.isLive_iff]
    exact fun live => live unknown
  rooms room members found member := by
    have present := Registry.mem_membersOf_iff.mpr ⟨members, found, member⟩
    exact wellFormed.absent (Registry.identityOf_of_unknown unknown) room present
  channels email listeners found listening := by
    have present := Registry.mem_listeners_iff.mpr ⟨listeners, found, listening⟩
    exact wellFormed.not_listening (Registry.identityOf_of_unknown unknown) email present
  movements := movements
  postings := postings
  outbox := outbox

theorem GoneSince.record (gone : GoneSince client before journal)
    (wellFormed : journal.gateway.registry.WellFormed) {event : GatewayEvent}
    (after : (journal.record event).gateway.registry.WellFormed)
    (unopened : event.opened? ≠ some client) :
    GoneSince client before (journal.record event) := by
  have unknown : journal.gateway.registry.profileOf client = none := by
    by_contra live
    have connected := (journal.gateway.registry.isLive_iff client).mpr live
    rw [gone.unknown] at connected
    cases connected
  have offered := Gateway.offersTo_perform wellFormed event
  have others : ∀ posting ∈ (journal.gateway.perform event).postings,
      posting.letter.recipient ≠ client := by
    intro posting posted same
    exact offered posting posted (same ▸ unknown)
  have apart : ∀ movement ∈ (journal.gateway.perform event).movements,
      movement.client ≠ client ∧ ∀ member ∈ movement.members, member.client ≠ client := by
    intro movement moved
    have opens : event.opened? = none := by
      cases event with
      | connect opened space outbox => cases moved
      | _ => rfl
    have shifts := Gateway.perform_shifts wellFormed opens
    constructor
    · intro same
      exact shifts.mover_existed wellFormed moved (same ▸ unknown)
    · intro member told same
      exact shifts.told moved told (same ▸ unknown)
  rcases gone.movements with ⟨moved, movements, still⟩
  rcases gone.postings with ⟨posted, postings, silent⟩
  refine .of_unknown after (Gateway.profileOf_perform wellFormed unknown unopened)
    ⟨moved ++ (journal.gateway.perform event).movements, ?movements, ?still⟩
    ⟨posted ++ (journal.gateway.perform event).postings, ?postings, ?silent⟩
    ((Gateway.waiting_perform unopened others).trans gone.outbox)
  case movements => simp only [Journal.record, movements, List.append_assoc]
  case postings => simp only [Journal.record, postings, List.append_assoc]
  case still =>
    intro movement member
    rcases List.mem_append.mp member with earlier | now
    · exact still movement earlier
    · exact apart movement now
  case silent =>
    intro posting member
    rcases List.mem_append.mp member with earlier | now
    · exact silent posting earlier
    · exact others posting now

theorem goneSince_disconnect (observers : Observers) {earlier later : List GatewayEvent}
    (fresh : FreshIds (earlier ++ [.disconnect client] ++ later))
    (unopened : client ∉ later.filterMap opened?) :
    GoneSince client (of observers (earlier ++ [.disconnect client]))
      (of observers (earlier ++ [.disconnect client] ++ later)) := by
  induction later using List.reverseRecOn with
  | nil =>
      rw [List.append_nil] at fresh ⊢
      have unknown : (of observers (earlier ++ [.disconnect client])).gateway.registry.profileOf
          client = none := by
        rw [of_concat]
        exact Registry.profileOf_disconnect _ client
      exact .of_unknown (wellFormed observers fresh) unknown
        ⟨[], (List.append_nil _).symm, nofun⟩ ⟨[], (List.append_nil _).symm, nofun⟩ (.refl _)
  | append_singleton later event induction =>
      rw [← List.append_assoc] at fresh ⊢
      rw [List.filterMap_append, List.mem_append, not_or] at unopened
      have soFar := induction fresh.of_concat unopened.1
      have after := wellFormed observers fresh
      rw [of_concat observers _ event] at after ⊢
      refine soFar.record (wellFormed observers fresh.of_concat) after fun opens => unopened.2 ?_
      simp [opens]

/-- What is asked for a connection that is not there comes to nothing, at any time. And once
a connection is disconnected it stays gone, since its identifier is not drawn again. -/
theorem late_work_is_inert (observers : Observers) {events : List GatewayEvent}
    (fresh : FreshIds events) (client : ClientId) :
    ((of observers events).gateway.registry.isLive client = false →
      (of observers events).gateway.Ignores client) ∧
    ∀ earlier later, events = earlier ++ [.disconnect client] ++ later →
      (client ∈ earlier.filterMap opened? → client ∉ later.filterMap opened?) ∧
      (client ∉ later.filterMap opened? →
        GoneSince client (of observers (earlier ++ [.disconnect client]))
          (of observers events)) := by
  constructor
  · intro gone
    apply Gateway.ignores_of_unknown (wellFormed observers fresh)
    by_contra live
    rw [(Registry.isLive_iff _ client).mpr live] at gone
    cases gone
  · rintro earlier later rfl
    refine ⟨fun opened => ?_, goneSince_disconnect observers fresh⟩
    apply GatewayEvent.FreshIds.not_reopened fresh
    rw [List.filterMap_append]
    exact List.mem_append_left _ opened

/-- Two people share a room, and one of them has a second connection. The other's session is
found out a second time after the connection was closed, and frames of it are still applied. -/
theorem late_work_is_inert_of_peer :
    let outbox : Outbox := ⟨8, [], true⟩
    let room : Room := ⟨.app, "1"⟩
    let bob : Identity := ⟨"Bob", "bob@x"⟩
    let earlier : List GatewayEvent :=
      [.connect ⟨"a"⟩ .app outbox, .connect ⟨"b"⟩ .app outbox, .connect ⟨"c"⟩ .app outbox,
        .authenticate ⟨"a"⟩ ⟨"Ann", "ann@x"⟩, .authenticate ⟨"b"⟩ bob, .authenticate ⟨"c"⟩ bob,
        .requestJoin ⟨"a"⟩ room, .requestJoin ⟨"b"⟩ room, .requestJoin ⟨"b"⟩ ⟨.page, "1"⟩]
    let later : List GatewayEvent :=
      [.authenticate ⟨"b"⟩ bob, .requestJoin ⟨"b"⟩ room, .requestJoin ⟨"c"⟩ room,
        .leave ⟨"b"⟩ room, .deliver ["bob@x"] ⟨"insert:comment", .null⟩,
        .emit room ⟨"b"⟩ (.leaveEdit "b")]
    let events := earlier ++ [.disconnect ⟨"b"⟩] ++ later
    FreshIds events ∧ (of .standard events).gateway.registry.isLive ⟨"b"⟩ = false ∧
      ⟨"b"⟩ ∈ earlier.filterMap opened? ∧
      (of .standard events).gateway.registry.membersOf room = [⟨"a"⟩, ⟨"c"⟩] ∧
      (of .standard events).gateway.Ignores ⟨"b"⟩ ∧
      GoneSince ⟨"b"⟩ (of .standard (earlier ++ [.disconnect ⟨"b"⟩])) (of .standard events) := by
  intro outbox room bob earlier later events
  have fresh : FreshIds events := by decide
  have gone : (of .standard events).gateway.registry.isLive ⟨"b"⟩ = false := by decide +kernel
  have opened : (⟨"b"⟩ : ClientId) ∈ earlier.filterMap opened? := by decide
  rcases late_work_is_inert .standard fresh ⟨"b"⟩ with ⟨ignored, since⟩
  rcases since earlier later rfl with ⟨unopened, stays⟩
  exact ⟨fresh, gone, opened, by decide +kernel, ignored gone, stays (unopened opened)⟩

end Journal

end SharedEditing
