import SharedEditing.Gateway.FanOut
import SharedEditing.Proofs.Change.Entitlement
import SharedEditing.Proofs.Gateway.Journal

/-! # Delivery is exact

A change is handed to the connections of the people that its own document entitles,
once to each, and to nobody else. The recipients of a notice are a set; which of them
is served first is left open. -/

namespace SharedEditing

def Outcome.connections : Outcome → Nat
  | .delivered _ connections => connections
  | _ => 0

/-! ## One message to several outboxes -/

namespace Outboxes

variable {clients : List ClientId}

theorem wouldAccept_modify_of_ne (outboxes : Outboxes) {client other : ClientId}
    (change : Outbox → Outbox) (different : client ≠ other) :
    wouldAccept (outboxes.modify client change) other = wouldAccept outboxes other := by
  unfold wouldAccept
  rw [outboxes.get?_modify_of_ne change different]

theorem postings_toEach (distinct : clients.Nodup) (outboxes : Outboxes)
    (message : ServerMessage) :
    (post outboxes (clients.map fun client => ⟨client, message⟩)).2 =
      clients.map fun client => ⟨⟨client, message⟩, wouldAccept outboxes client⟩ := by
  induction clients generalizing outboxes with
  | nil => rfl
  | cons first rest induction =>
      rw [List.nodup_cons] at distinct
      simp only [List.map_cons, post, induction distinct.2, List.cons.injEq, true_and]
      apply List.map_congr_left
      intro client member
      have different : first ≠ client := fun equal => distinct.1 (equal ▸ member)
      rw [wouldAccept_modify_of_ne outboxes _ different]

theorem get?_post_toEach (distinct : clients.Nodup) (outboxes : Outboxes)
    (message : ServerMessage) (client : ClientId) :
    (post outboxes (clients.map fun client => ⟨client, message⟩)).1.get? client =
      if client ∈ clients then (outboxes.get? client).map fun outbox => outbox.offer message
      else outboxes.get? client := by
  induction clients generalizing outboxes with
  | nil => rfl
  | cons first rest induction =>
      rw [List.nodup_cons] at distinct
      simp only [List.map_cons, post, induction distinct.2, Table.get?_modify]
      by_cases same : first = client
      · subst same
        simp [distinct.1]
      · simp [same, Ne.symm same]

end Outboxes

/-! ## The recipients of a notice -/

theorem nodup_eraseDups {α : Type} [DecidableEq α] (values : List α) : values.eraseDups.Nodup := by
  cases values with
  | nil => simp
  | cons first rest =>
      rw [List.eraseDups_cons, List.nodup_cons]
      refine ⟨?_, nodup_eraseDups _⟩
      simp [List.mem_eraseDups]
termination_by values.length
decreasing_by
  have shorter := List.length_filter_le (fun other => !other == first) rest
  simpa using Nat.lt_succ_of_le shorter

namespace Gateway

theorem nodup_targets (registry : Registry) (audience : Audience) :
    (targets registry audience).Nodup :=
  nodup_eraseDups _

theorem mem_targets_iff {registry : Registry} (wellFormed : registry.WellFormed)
    {audience : Audience} {client : ClientId} :
    client ∈ targets registry audience ↔ ∃ identity,
      registry.profileOf client = some (.app, .known identity) ∧ identity.email ∈ audience := by
  unfold targets
  rw [List.mem_eraseDups, List.mem_filter, List.mem_flatMap]
  constructor
  · intro target
    rcases target with ⟨⟨email, entitled, listening⟩, _⟩
    rcases (wellFormed.listening email client).mp listening with ⟨identity, known, rfl⟩
    exact ⟨identity, known, entitled⟩
  · intro person
    rcases person with ⟨identity, known, entitled⟩
    have live : registry.profileOf client ≠ none := by simp [known]
    exact ⟨⟨identity.email, entitled,
      (wellFormed.listening identity.email client).mpr ⟨identity, known, rfl⟩⟩,
      (registry.isLive_iff client).mpr live⟩

/-! ## A notice to given recipients -/

def Report.handedTo {α : Type} (report : Report α) (client : ClientId) : List ServerMessage :=
  (report.postings.filter fun posting =>
    posting.accepted && posting.letter.recipient == client).map fun posting =>
      posting.letter.message

section DeliverTo

variable {gateway : Gateway} {clients : List ClientId} {notice : Notice} {client : ClientId}

theorem handedTo_deliverTo (distinct : clients.Nodup) :
    (gateway.deliverTo clients notice).handedTo client =
      if client ∈ clients ∧ gateway.outboxes.wouldAccept client = true then [.change notice]
      else [] := by
  have postings : (gateway.deliverTo clients notice).postings =
      clients.map fun client =>
        ⟨⟨client, .change notice⟩, gateway.outboxes.wouldAccept client⟩ :=
    Outboxes.postings_toEach distinct gateway.outboxes (.change notice)
  -- The recipients are distinct, so at most one posting is for the client.
  have chosen : (clients.filter fun other =>
      gateway.outboxes.wouldAccept other && other == client) =
        if client ∈ clients ∧ gateway.outboxes.wouldAccept client = true then [client] else [] := by
    simp only [Bool.and_comm]
    rw [← List.filter_filter, List.filter_beq, (distinct.filter _).count]
    by_cases taken : client ∈ clients ∧ gateway.outboxes.wouldAccept client = true <;>
      simp [List.mem_filter, taken]
  unfold Report.handedTo
  rw [postings, List.filter_map, List.map_map]
  simp only [Function.comp_def]
  rw [chosen]
  split <;> rfl

theorem get?_outboxes_deliverTo (distinct : clients.Nodup) :
    (gateway.deliverTo clients notice).gateway.outboxes.get? client =
      if client ∈ clients ∧ gateway.outboxes.wouldAccept client = true
      then (gateway.outboxes.get? client).map fun outbox =>
        { outbox with waiting := outbox.waiting ++ [.change notice] }
      else gateway.outboxes.get? client := by
  have offered := Outboxes.get?_post_toEach distinct gateway.outboxes (.change notice) client
  change (gateway.deliverTo clients notice).gateway.outboxes.get? client = _ at offered
  rw [offered]
  unfold Outboxes.wouldAccept
  by_cases member : client ∈ clients
  · cases found : gateway.outboxes.get? client with
    | none => simp [member]
    | some outbox => by_cases accepts : outbox.accepts <;> simp [member, Outbox.offer, accepts]
  · simp [member]

end DeliverTo

/-! ## A change -/

/-- Threads in a store and the connections of a gateway, with what was offered so far.
The recipients of a notice are served in some order. -/
def services (lookup : ThreadLookup) (arrange : List ClientId → List ClientId) :
    Services (StateM (Gateway × List Posting)) where
  applicationOf thread := return lookup thread
  deliver audience notice := do
    let (gateway, postings) ← get
    let report := gateway.deliverTo (arrange (targets gateway.registry audience)) notice
    set (report.gateway, postings ++ report.postings)
    return report.answer

def fanOut (gateway : Gateway) (lookup : ThreadLookup)
    (arrange : List ClientId → List ClientId) (change : Change) : Report Outcome :=
  let (outcome, after, postings) :=
    (FanOut.handle (services lookup arrange) change).run (gateway, [])
  ⟨outcome, after, [], postings⟩

section FanOut

variable {gateway : Gateway} {lookup : ThreadLookup} {arrange : List ClientId → List ClientId}
  {change : Change}

theorem fanOut_of_dropped {reason : DropReason}
    (dropped : FanOut.routed lookup change = .error reason) :
    gateway.fanOut lookup arrange change = ⟨.dropped reason, gateway, [], []⟩ := by
  have handled := FanOut.handle_run_of_still (services lookup arrange) lookup (gateway, [])
    (fun _ => rfl) change
  simp only [fanOut, handled, dropped]

theorem fanOut_of_routed {addressed : FanOut.Addressed}
    (routed : FanOut.routed lookup change = .ok addressed) :
    gateway.fanOut lookup arrange change =
      if addressed.audience.isEmpty then ⟨.suppressed addressed.event.name, gateway, [], []⟩
      else
        let report := gateway.deliverTo (arrange (targets gateway.registry addressed.audience))
          addressed.event.notice
        ⟨.delivered addressed.event.name report.answer, report.gateway, [], report.postings⟩ := by
  have handled := FanOut.handle_run_of_still (services lookup arrange) lookup (gateway, [])
    (fun _ => rfl) change
  simp only [fanOut, handled, routed, SharedEditing.FanOut.emit]
  cases addressed.audience.isEmpty <;> rfl

theorem of_fannedOut {posting : Posting}
    (told : posting ∈ (gateway.fanOut lookup arrange change).postings) :
    ∃ addressed, FanOut.routed lookup change = .ok addressed ∧
      posting.letter.message = .change addressed.event.notice ∧
      posting.letter.recipient ∈ arrange (targets gateway.registry addressed.audience) := by
  cases routed : FanOut.routed lookup change with
  | error reason =>
      rw [fanOut_of_dropped routed] at told
      cases told
  | ok addressed =>
      rw [fanOut_of_routed routed] at told
      split at told
      · cases told
      · rcases List.mem_map.mp (Outboxes.letter_of_posting told) with ⟨target, served, same⟩
        rw [← same]
        exact ⟨addressed, rfl, rfl, served⟩

end FanOut

/-! ## Who is handed a change -/

/-- A connection that is open, was opened for applications, has an entitled person
behind it and room in its outbox, when a change can be delivered at all. -/
def Receives (gateway : Gateway) (lookup : ThreadLookup) (change : Change) (client : ClientId) :
    Prop :=
  change.Deliverable lookup ∧
    (∃ connection identity, gateway.registry.connections.get? client = some connection ∧
      connection.space = .app ∧ connection.standing = .known identity ∧
        change.Entitles identity.email) ∧
    gateway.outboxes.wouldAccept client = true

/-- A report of a change that was handed, with one notice, to exactly those who are
to receive it. -/
structure ExactDelivery (before : Gateway) (lookup : ThreadLookup) (change : Change)
    (report : Report Outcome) (notice : Notice) : Prop where
  handed : ∀ client, before.Receives lookup change client →
    report.handedTo client = [.change notice]
  others : ∀ client, ¬ before.Receives lookup change client → report.handedTo client = []
  counted : report.answer.connections = acceptedCount report.postings
  registry : report.gateway.registry = before.registry
  filled : ∀ client outbox, before.Receives lookup change client →
    before.outboxes.get? client = some outbox →
      report.gateway.outboxes.get? client =
        some { outbox with waiting := outbox.waiting ++ [.change notice] }
  untouched : ∀ client, ¬ before.Receives lookup change client →
    report.gateway.outboxes.get? client = before.outboxes.get? client

variable {gateway : Gateway} {lookup : ThreadLookup} {arrange : List ClientId → List ClientId}
  {change : Change}

theorem receives_iff (wellFormed : gateway.registry.WellFormed) {addressed : FanOut.Addressed}
    (routed : FanOut.routed lookup change = .ok addressed) {client : ClientId} :
    gateway.Receives lookup change client ↔
      client ∈ targets gateway.registry addressed.audience ∧
        gateway.outboxes.wouldAccept client = true := by
  have deliverable := FanOut.routed_iff_deliverable.mp ⟨addressed, routed⟩
  unfold Receives
  rw [mem_targets_iff wellFormed, ← and_assoc]
  refine and_congr_left fun _ => ?_
  simp only [deliverable, true_and, FanOut.mem_audience_iff routed, Registry.profileOf,
    Option.map_eq_some_iff, Prod.mk.injEq]
  constructor
  · intro person
    rcases person with ⟨connection, identity, found, app, known, entitled⟩
    exact ⟨identity, ⟨connection, found, app, known⟩, entitled⟩
  · intro person
    rcases person with ⟨identity, ⟨connection, found, app, known⟩, entitled⟩
    exact ⟨connection, identity, found, app, known, entitled⟩

theorem ExactDelivery.of_still {report : Report Outcome} (notice : Notice)
    (nobody : ∀ client, ¬ gateway.Receives lookup change client)
    (connections : report.answer.connections = 0) (same : report.gateway = gateway)
    (postings : report.postings = []) :
    ExactDelivery gateway lookup change report notice where
  handed client receives := False.elim (nobody client receives)
  others client _ := by simp [Report.handedTo, postings]
  counted := by simp [connections, postings, acceptedCount]
  registry := by rw [same]
  filled client _ receives _ := False.elim (nobody client receives)
  untouched client _ := by rw [same]

theorem ExactDelivery.of_served (wellFormed : gateway.registry.WellFormed)
    {addressed : FanOut.Addressed} (routed : FanOut.routed lookup change = .ok addressed)
    {clients : List ClientId}
    (served : clients.Perm (targets gateway.registry addressed.audience)) {notice : Notice}
    {report : Report Outcome} (name : String)
    (answer : report.answer = .delivered name (gateway.deliverTo clients notice).answer)
    (after : report.gateway = (gateway.deliverTo clients notice).gateway)
    (postings : report.postings = (gateway.deliverTo clients notice).postings) :
    ExactDelivery gateway lookup change report notice := by
  have distinct : clients.Nodup := served.nodup_iff.mpr (nodup_targets _ _)
  have receives : ∀ client, gateway.Receives lookup change client ↔
      client ∈ clients ∧ gateway.outboxes.wouldAccept client = true := by
    intro client
    rw [receives_iff wellFormed routed, served.mem_iff]
  have handed : ∀ client, report.handedTo client =
      (gateway.deliverTo clients notice).handedTo client := by
    intro client
    unfold Report.handedTo
    rw [postings]
  constructor
  case handed =>
    intro client received
    rw [handed, handedTo_deliverTo distinct, if_pos ((receives client).mp received)]
  case others =>
    intro client missed
    rw [handed, handedTo_deliverTo distinct, if_neg fun both => missed ((receives client).mpr both)]
  case counted =>
    rw [answer, postings]
    rfl
  case registry =>
    rw [after]
    rfl
  case filled =>
    intro client outbox received found
    rw [after, get?_outboxes_deliverTo distinct, if_pos ((receives client).mp received), found]
    rfl
  case untouched =>
    intro client missed
    rw [after, get?_outboxes_deliverTo distinct,
      if_neg fun both => missed ((receives client).mpr both)]

theorem exists_exactDelivery (wellFormed : gateway.registry.WellFormed)
    (arranged : ∀ clients, (arrange clients).Perm clients) :
    ∃ notice, ExactDelivery gateway lookup change
      (gateway.fanOut lookup arrange change) notice := by
  cases routed : FanOut.routed lookup change with
  | error reason =>
      have undeliverable : ¬ change.Deliverable lookup := by
        intro deliverable
        rcases FanOut.routed_iff_deliverable.mpr deliverable with ⟨addressed, ok⟩
        simp [routed] at ok
      rw [fanOut_of_dropped routed]
      exact ⟨⟨"", .null⟩, .of_still _ (fun client receives => undeliverable receives.1) rfl rfl rfl⟩
  | ok addressed =>
      refine ⟨addressed.event.notice, ?_⟩
      rw [fanOut_of_routed routed]
      cases empty : addressed.audience.isEmpty with
      | true =>
          -- An empty audience entitles nobody, so nobody misses the notice.
          rw [if_pos rfl]
          refine .of_still _ (fun client receives => ?_) rfl rfl rfl
          rw [receives_iff wellFormed routed, mem_targets_iff wellFormed] at receives
          rcases receives with ⟨⟨identity, _, entitled⟩, _⟩
          rw [List.isEmpty_iff.mp empty] at entitled
          cases entitled
      | false =>
          exact .of_served wellFormed routed (arranged _) addressed.event.name rfl rfl rfl

end Gateway

/-! ## The desk -/

theorem Desk.handle_eq_fanOut (desk : Desk) (change : Change) :
    let report := desk.gateway.fanOut desk.threads.find id change
    (desk.handle change).1 = report.answer ∧
      (desk.handle change).2.gateway = report.gateway ∧
      (desk.handle change).2.postings = report.postings := by
  have looks : ∀ thread, (services.applicationOf thread).run { desk with postings := [] } =
      (desk.threads.find thread,
        { desk with postings := [], threads := desk.threads.counted }) := fun _ => rfl
  unfold Desk.handle
  rw [FanOut.handle_run services desk.threads.find _ _ looks change]
  cases routed : FanOut.routed desk.threads.find change with
  | error reason =>
      simp only [Gateway.fanOut_of_dropped routed]
      cases FanOut.consulted? change <;> simp
  | ok addressed =>
      simp only [Gateway.fanOut_of_routed routed, FanOut.emit]
      cases addressed.audience.isEmpty <;> cases FanOut.consulted? change <;> exact ⟨rfl, rfl, rfl⟩

open GatewayEvent

/-- Whatever happened at a gateway, a change is handed to exactly the connections of the
people it entitles. -/
theorem Journal.exact_delivery (observers : Observers) {events : List GatewayEvent}
    (fresh : FreshIds events) (lookup : ThreadLookup) {arrange : List ClientId → List ClientId}
    (arranged : ∀ clients, (arrange clients).Perm clients) (change : Change) :
    ∃ notice, Gateway.ExactDelivery (of observers events).gateway lookup change
      ((of observers events).gateway.fanOut lookup arrange change) notice :=
  Gateway.exists_exactDelivery (wellFormed observers fresh) arranged

/-- Two connections of one person are both served, a page connection is not. -/
theorem Journal.exact_delivery_of_comment :
    let events : List GatewayEvent :=
      [.connect ⟨"a"⟩ .app ⟨2, [], true⟩, .connect ⟨"b"⟩ .app ⟨2, [], true⟩,
        .connect ⟨"c"⟩ .page ⟨2, [], true⟩, .authenticate ⟨"a"⟩ ⟨"Ann", "ann@x"⟩,
        .authenticate ⟨"b"⟩ ⟨"Ann", "ann@x"⟩, .authenticate ⟨"c"⟩ ⟨"Ann", "ann@x"⟩]
    let lookup : ThreadLookup := fun _ => .ok (some "7")
    let change : Change :=
      ⟨.comment, .insert, "1", some [("policies", .array [.object
        [("permission", .string "read:comments"), ("users", .array [.string "ann@x"])]]),
        ("threadId", .string "5")]⟩
    let gateway := (Journal.of .standard events).gateway
    FreshIds events ∧ (∀ clients : List ClientId, clients.reverse.Perm clients) ∧
      (gateway.fanOut lookup List.reverse change).answer = .delivered "insert:comment" 2 ∧
      ∃ notice, Gateway.ExactDelivery gateway lookup change
        (gateway.fanOut lookup List.reverse change) notice :=
  ⟨by decide, List.reverse_perm, by decide,
    Journal.exact_delivery .standard (by decide) _ List.reverse_perm _⟩

end SharedEditing
