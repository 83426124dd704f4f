import SharedEditing.Proofs.Gateway.Chronicle

/-! # What is offered to a connection

Whatever happens at a gateway comes down to letters that are offered one after another.
Which letters these are can be told from the registry alone, and what becomes of the ones
for a connection can be told from its own outbox alone. -/

namespace SharedEditing

def acceptedBy (client : ClientId) (postings : List Posting) : List ServerMessage :=
  (postings.filter fun posting =>
    posting.accepted && posting.letter.recipient == client).map fun posting =>
      posting.letter.message

def messagesTo (client : ClientId) (letters : List Letter) : List ServerMessage :=
  (letters.filter fun letter => letter.recipient == client).map Letter.message

def offeredTo (client : ClientId) (postings : List Posting) : List ServerMessage :=
  messagesTo client (postings.map Posting.letter)

section Lists

variable (client : ClientId)

theorem acceptedBy_append (postings more : List Posting) :
    acceptedBy client (postings ++ more) =
      acceptedBy client postings ++ acceptedBy client more := by
  simp [acceptedBy]

theorem messagesTo_append (letters more : List Letter) :
    messagesTo client (letters ++ more) = messagesTo client letters ++ messagesTo client more := by
  simp [messagesTo]

theorem offeredTo_append (postings more : List Posting) :
    offeredTo client (postings ++ more) = offeredTo client postings ++ offeredTo client more := by
  simp [offeredTo, messagesTo_append]

theorem messagesTo_of_others {client : ClientId} {letters : List Letter}
    (others : ∀ letter ∈ letters, letter.recipient ≠ client) :
    messagesTo client letters = [] := by
  rw [messagesTo, List.filter_eq_nil_iff.mpr fun letter sent => by simpa using others letter sent]
  rfl

theorem messagesTo_letters_of_untold (observers : Observers) {client : ClientId}
    {movements : List Movement}
    (untold : ∀ movement ∈ movements, ∀ member ∈ movement.members, member.client ≠ client) :
    messagesTo client (observers.letters movements) = [] := by
  apply messagesTo_of_others
  rintro letter sent rfl
  rcases Observers.answer_of_letter sent with ⟨movement, made, ⟨member, listed, same⟩, _⟩
  exact untold movement made member listed same

theorem messagesTo_toEach {clients : List ClientId} (distinct : clients.Nodup)
    (message : ServerMessage) :
    messagesTo client (clients.map fun other => ⟨other, message⟩) =
      if client ∈ clients then [message] else [] := by
  have chosen : clients.filter (fun other => other == client) =
      if client ∈ clients then [client] else [] := by
    rw [List.filter_beq, distinct.count]
    split <;> rfl
  rw [messagesTo, List.filter_map, List.map_map]
  simp only [Function.comp_def]
  rw [chosen]
  split <;> rfl

theorem acceptedBy_sublist (postings : List Posting) :
    (acceptedBy client postings).Sublist (offeredTo client postings) := by
  rw [acceptedBy, offeredTo, messagesTo, List.filter_map, List.map_map]
  apply List.Sublist.map
  simp only [Function.comp_def]
  rw [← List.filter_filter]
  exact List.filter_sublist

end Lists

/-! ## Outboxes -/

/-- The messages that an outbox accepts of the ones offered to it. Where there is none
nothing is accepted. -/
def Outbox.taken : Option Outbox → List ServerMessage → List ServerMessage
  | _, [] => []
  | outbox, message :: rest =>
      let later := taken (outbox.map fun outbox => outbox.offer message) rest
      if outbox.any Outbox.accepts then message :: later else later

theorem Outbox.foldl_offer (outbox : Outbox) (messages : List ServerMessage) :
    messages.foldl offer outbox =
      { outbox with waiting := outbox.waiting ++ taken (some outbox) messages } := by
  induction messages generalizing outbox with
  | nil => simp [taken]
  | cons message rest induction =>
      rw [List.foldl_cons, induction]
      by_cases open_ : outbox.accepts = true <;> simp [taken, offer, open_]

namespace Outboxes

variable (outboxes : Outboxes) (letters : List Letter) (client : ClientId)

theorem get?_post : (post outboxes letters).1.get? client =
    (outboxes.get? client).map fun outbox =>
      (messagesTo client letters).foldl Outbox.offer outbox := by
  induction letters generalizing outboxes with
  | nil => exact Option.map_id'.symm
  | cons letter rest induction =>
      simp only [post, induction, Table.get?_modify]
      by_cases own : letter.recipient = client
      · simp [messagesTo, own, Option.map_map, Function.comp_def]
      · simp [messagesTo, own]

theorem acceptedBy_post : acceptedBy client (post outboxes letters).2 =
    Outbox.taken (outboxes.get? client) (messagesTo client letters) := by
  induction letters generalizing outboxes with
  | nil => cases outboxes.get? client <;> rfl
  | cons letter rest induction =>
      have later := induction (outboxes.modify letter.recipient fun outbox =>
        outbox.offer letter.message)
      simp only [acceptedBy, messagesTo] at later
      simp only [post, acceptedBy, messagesTo, List.filter_cons]
      by_cases own : letter.recipient = client
      · subst own
        rw [Table.get?_modify, if_pos rfl] at later
        simp only [wouldAccept, beq_self_eq_true, Bool.and_true, if_true, List.map_cons,
          Outbox.taken, ← later]
        split <;> rfl
      · rw [Table.get?_modify, if_neg own] at later
        simp [own, later]

theorem get?_post_waiting {outbox : Outbox} (found : outboxes.get? client = some outbox) :
    (post outboxes letters).1.get? client =
      some { outbox with
        waiting := outbox.waiting ++ acceptedBy client (post outboxes letters).2 } := by
  rw [get?_post, acceptedBy_post, found, Option.map_some, Outbox.foldl_offer]

theorem post_append (more : List Letter) : post outboxes (letters ++ more) =
    ((post (post outboxes letters).1 more).1,
      (post outboxes letters).2 ++ (post (post outboxes letters).1 more).2) := by
  induction letters generalizing outboxes with
  | nil => rfl
  | cons letter rest induction => simp only [List.cons_append, post, induction]

/-- Two tables that agree on the outbox of a connection, and letters of which the same are
for it, come to the same for it. -/
theorem post_agree {left right : Outboxes} {sent others : List Letter} {client : ClientId}
    (same : left.get? client = right.get? client)
    (messages : messagesTo client sent = messagesTo client others) :
    acceptedBy client (post left sent).2 = acceptedBy client (post right others).2 ∧
      (post left sent).1.get? client = (post right others).1.get? client := by
  rw [acceptedBy_post, acceptedBy_post, get?_post, get?_post, same, messages]
  exact ⟨rfl, rfl⟩

end Outboxes

/-! ## What an event has offered -/

/-- Something asked of a gateway. The recipients of a notice are served in some order. -/
structure Errand where
  event : GatewayEvent
  arrangement : Arrangement := .plain

namespace Gateway

def fulfil (gateway : Gateway) (errand : Errand) : Report Unit :=
  match errand.event with
  | .deliver audience notice =>
      let clients := errand.arrangement.order (targets gateway.registry audience)
      (gateway.deliverTo clients notice).unanswered
  | event => gateway.perform event

def lettersToOthers (registry : Registry) (room : Room) (sender : ClientId)
    (message : ServerMessage) : List Letter :=
  Presence.toAll ((registry.members room).filter fun member => member.client ≠ sender) message

def lettersOf (observers : Observers) (registry : Registry) (errand : Errand) : List Letter :=
  match errand.event with
  | .authenticate client identity =>
      observers.letters (registry.authenticate client identity).movements
  | .requestJoin client room => observers.letters (registry.requestJoin client room).movements
  | .leave client room => observers.letters (registry.leave client room).movements
  | .disconnect client => observers.letters (registry.disconnect client).movements
  | .relay client pointer =>
      match stampedPointer registry client pointer with
      | some (room, message) => lettersToOthers registry room client message
      | none => []
  | .emit room sender message => lettersToOthers registry room sender message
  | .deliver audience notice =>
      (errand.arrangement.order (targets registry audience)).map fun client =>
        ⟨client, .change notice⟩
  | _ => []

def outboxesFor (outboxes : Outboxes) : GatewayEvent → Outboxes
  | .connect client _ outbox => outboxes.set client outbox
  | .drain client => outboxes.modify client Outbox.drain
  | .closeOutbox client => outboxes.modify client Outbox.close
  | _ => outboxes

section Fulfil

variable (gateway : Gateway) (errand : Errand)

theorem fulfil_registry :
    (gateway.fulfil errand).gateway.registry = moved gateway.registry errand.event := by
  obtain ⟨event, arrangement⟩ := errand
  cases event with
  | deliver audience notice => rfl
  | _ => exact gateway.perform_registry _

theorem fulfil_observers : (gateway.fulfil errand).gateway.observers = gateway.observers := by
  obtain ⟨event, arrangement⟩ := errand
  cases event with
  | deliver audience notice => rfl
  | _ => exact gateway.perform_observers _

theorem fulfil_post :
    (gateway.fulfil errand).gateway.outboxes =
        (Outboxes.post (outboxesFor gateway.outboxes errand.event)
          (lettersOf gateway.observers gateway.registry errand)).1 ∧
      (gateway.fulfil errand).postings =
        (Outboxes.post (outboxesFor gateway.outboxes errand.event)
          (lettersOf gateway.observers gateway.registry errand)).2 := by
  obtain ⟨event, arrangement⟩ := errand
  cases event with
  | relay client pointer =>
      simp only [fulfil, perform, Report.unanswered, relay, lettersOf, outboxesFor]
      cases stampedPointer gateway.registry client pointer <;> exact ⟨rfl, rfl⟩
  | _ => exact ⟨rfl, rfl⟩

end Fulfil

end Gateway

end SharedEditing
