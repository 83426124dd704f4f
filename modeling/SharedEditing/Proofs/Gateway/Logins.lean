import SharedEditing.Proofs.Gateway.Invisibility

/-! # Who a connection belongs to

An identity is attached to a connection by a login that succeeds, which happens at most
once. From then on the connection is this person's for as long as it is there. -/

namespace SharedEditing

namespace Seating

variable {seating : Seating} {client : ClientId} {identity : Identity}

def Settled (seating : Seating) (client : ClientId) (identity : Identity) : Prop :=
  ∀ seat, seating.get? client = some seat → seat.identity = some identity

theorem Settled.modify (settled : seating.Settled client identity) {change : Seat → Seat}
    (kept : ∀ seat, seat.identity = some identity → (change seat).identity = seat.identity)
    (other : ClientId) : Settled (seating.modify other change) client identity := by
  intro seat found
  rw [Table.get?_modify] at found
  split at found
  · rcases Option.map_eq_some_iff.mp found with ⟨before, present, rfl⟩
    rw [kept before (settled before present), settled before present]
  · exact settled seat found

theorem Settled.perform (settled : seating.Settled client identity) {event : GatewayEvent}
    (unopened : event.opened? ≠ some client) : (seating.perform event).Settled client identity := by
  cases event with
  | connect opened space outbox =>
      have different : opened ≠ client := fun same => unopened (congrArg some same)
      intro seat found
      exact settled seat (((seating.get?_set opened client _).trans (if_neg different)) ▸ found)
  | authenticate known found =>
      exact settled.modify (fun seat present => by simp [Seat.authenticate, present]) known
  | requestJoin asking room =>
      exact settled.modify (fun seat _ => seat.identity_request room) asking
  | leave leaving room => exact settled.modify (fun seat _ => seat.identity_leave room) leaving
  | disconnect gone =>
      intro seat found
      simp only [Seating.perform, disconnect, Table.get?_erase] at found
      split at found
      · cases found
      · exact settled seat found
  | _ => exact settled

theorem settled_authenticate (attached : (seating.authenticate client identity).1 = true) :
    (seating.authenticate client identity).2.Settled client identity := by
  intro seat found
  rw [authenticate, Table.get?_modify, if_pos rfl] at found
  rcases Option.map_eq_some_iff.mp found with ⟨before, present, rfl⟩
  simp only [authenticate, present, Option.any_some, Option.isNone_iff_eq_none] at attached
  simp only [Seat.authenticate, attached, Seat.identify]
  cases before.pending <;> rfl

theorem Settled.refuses (settled : seating.Settled client identity) (other : Identity) :
    (seating.authenticate client other).1 = false := by
  rw [authenticate]
  cases found : seating.get? client with
  | none => rfl
  | some seat => simp [settled seat found]

theorem Settled.identityOf (settled : seating.Settled client identity) {other : Identity}
    (known : seating.identityOf client = some other) : other = identity := by
  rcases Option.bind_eq_some_iff.mp known with ⟨seat, found, person⟩
  rw [settled seat found] at person
  exact (Option.some.inj person).symm

end Seating

namespace Chronicle

open ServiceEvent

variable {observers : Observers} {events : List ServiceEvent} {client : ClientId}
  {identity : Identity}

def Attached (observers : Observers) (events : List ServiceEvent) (client : ClientId)
    (identity : Identity) : Prop :=
  ∃ earlier later, events = earlier ++ [.login client (.ok identity)] ++ later ∧
    ((of observers earlier).gateway.login client (.ok identity)).answer = true

theorem Attached.append (attached : Attached observers events client identity)
    (more : List ServiceEvent) : Attached observers (events ++ more) client identity := by
  rcases attached with ⟨earlier, later, rfl, answer⟩
  exact ⟨earlier, later ++ more, by simp only [List.append_assoc], answer⟩

theorem identityOf_eq (observers : Observers) (fresh : FreshIds events) (client : ClientId) :
    (of observers events).gateway.registry.identityOf client =
      (Seating.after {} events).identityOf client := by
  rw [Seating.identityOf, seated observers fresh client, Registry.seatOf,
    Registry.identityOf_eq, Option.bind_map]
  rfl

theorem settled_later {later : List ServiceEvent} (fresh : FreshIds (events ++ later))
    (opened : client ∈ events.filterMap opened?)
    (settled : (Seating.after {} events).Settled client identity) :
    (Seating.after {} (events ++ later)).Settled client identity := by
  induction later using List.reverseRecOn with
  | nil => rwa [List.append_nil]
  | append_singleton later event induction =>
      have unopened := fresh.not_reopened opened
      rw [← List.append_assoc] at fresh ⊢
      have before := induction (fresh.sublist (List.sublist_append_left _ [event]))
      rw [Seating.after_append]
      cases asked : event.move? with
      | none => rwa [Seating.after_of_still _ asked]
      | some move =>
          rw [Seating.after_of_move _ asked]
          apply before.perform
          intro opens
          apply unopened
          rw [List.filterMap_append]
          have same := event.opened_of_move
          rw [asked, Option.bind_some, opens] at same
          simp [← same]

theorem answer_login (observers : Observers) (fresh : FreshIds events) (client : ClientId)
    (identity : Identity) :
    ((of observers events).gateway.login client (.ok identity)).answer =
      ((Seating.after {} events).authenticate client identity).1 :=
  (seated observers fresh).authentication_eq client identity

theorem settled_of_attached (fresh : FreshIds events)
    (attached : Attached observers events client identity) :
    (Seating.after {} events).Settled client identity := by
  rcases attached with ⟨earlier, later, rfl, answer⟩
  have freshSoFar := fresh.sublist
    ((List.sublist_append_left earlier [.login client (.ok identity)]).trans
      (List.sublist_append_left _ later))
  rw [answer_login observers freshSoFar] at answer
  have opened : client ∈ earlier.filterMap opened? := by
    apply opened_of_live observers freshSoFar
    intro unknown
    rw [Seating.authenticate, seated observers freshSoFar client,
      Registry.seatOf_of_unknown unknown] at answer
    cases answer
  have settled := Seating.settled_authenticate answer
  apply settled_later fresh
  · rw [List.filterMap_append]
    exact List.mem_append_left _ opened
  · rw [Seating.after_append]
    exact settled

theorem of_answer {gateway : Gateway} {event : ServiceEvent}
    (answered : (client, true) ∈ (gateway.serve event).answer) :
    ∃ identity, event = .login client (.ok identity) ∧
      (gateway.login client (.ok identity)).answer = true := by
  cases event with
  | login known found =>
      have same := List.mem_singleton.mp answered
      simp only [Prod.mk.injEq] at same
      rcases same with ⟨rfl, answer⟩
      cases found with
      | error error => cases answer
      | ok identity => exact ⟨identity, rfl, answer.symm⟩
  | _ => cases answered

theorem exists_attached (attempted : (client, true) ∈ (of observers events).logins) :
    ∃ identity, Attached observers events client identity := by
  induction events using List.reverseRecOn with
  | nil => cases attempted
  | append_singleton events event induction =>
      rw [of_concat] at attempted
      rcases List.mem_append.mp attempted with before | now
      · rcases induction before with ⟨identity, attached⟩
        exact ⟨identity, attached.append [event]⟩
      · rcases of_answer now with ⟨identity, rfl, answer⟩
        exact ⟨identity, events, [], (List.append_nil _).symm, answer⟩

theorem logins_of_attached (attached : Attached observers events client identity) :
    (client, true) ∈ (of observers events).logins := by
  rcases attached with ⟨earlier, later, rfl, answer⟩
  apply logins_of_begun (List.prefix_append _ later)
  rw [of_concat]
  apply List.mem_append_right
  exact List.mem_singleton.mpr (congrArg (Prod.mk client) answer.symm)

theorem count_logins_le (observers : Observers) (fresh : FreshIds events) (client : ClientId) :
    (of observers events).logins.count (client, true) ≤ 1 := by
  induction events using List.reverseRecOn with
  | nil => exact Nat.zero_le 1
  | append_singleton events event induction =>
      have earlier := fresh.sublist (List.sublist_append_left events [event])
      have before := induction earlier
      rw [of_concat, record, List.count_append]
      by_cases attempted : (client, true) ∈ (of observers events).logins
      · rcases exists_attached attempted with ⟨identity, attached⟩
        have settled := settled_of_attached earlier attached
        have refused : (client, true) ∉ ((of observers events).gateway.serve event).answer := by
          intro answered
          rcases of_answer answered with ⟨person, rfl, answer⟩
          rw [answer_login observers earlier, settled.refuses] at answer
          cases answer
        rw [List.count_eq_zero.mpr refused]
        exact before
      · rw [List.count_eq_zero.mpr attempted, Nat.zero_add]
        have single : ((of observers events).gateway.serve event).answer.length ≤ 1 := by
          cases event <;> simp [Gateway.serve, Gateway.Report.answering]
        exact Nat.le_trans List.count_le_length single

/-- Whom a connection is known as is whom its only successful login named. -/
theorem attached_of_identityOf (fresh : FreshIds events)
    (known : (of observers events).gateway.registry.identityOf client = some identity) :
    Attached observers events client identity := by
  have attempted : (client, true) ∈ (of observers events).logins := by
    by_contra never
    rw [identityOf_eq_none fresh never] at known
    cases known
  rcases exists_attached attempted with ⟨person, attached⟩
  rw [identityOf_eq observers fresh] at known
  rw [(settled_of_attached fresh attached).identityOf known]
  exact attached

end Chronicle

end SharedEditing
