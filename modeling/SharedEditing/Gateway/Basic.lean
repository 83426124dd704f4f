import SharedEditing.Outbox
import SharedEditing.Registry.Membership
import SharedEditing.Frame.Client
import SharedEditing.Session.Resolver

/-! # The gateway

The gateway joins the registry to the outboxes: every movement that an operation
reports is turned into letters, and the letters are offered one after another.
What the registry does never depends on what the outboxes accept. -/

namespace SharedEditing

structure Gateway where
  observers : Observers := .standard
  registry : Registry := {}
  outboxes : Outboxes := {}

structure Gateway.Report (α : Type) where
  answer : α
  gateway : Gateway
  movements : List Movement := []
  postings : List Posting := []

namespace Gateway

def post (gateway : Gateway) (letters : List Letter) : Gateway × List Posting :=
  let (outboxes, postings) := gateway.outboxes.post letters
  ({ gateway with outboxes }, postings)

def carryOut {α : Type} (gateway : Gateway) (step : Registry.Step α) : Report α :=
  let (after, postings) :=
    { gateway with registry := step.registry }.post (gateway.observers.letters step.movements)
  ⟨step.answer, after, step.movements, postings⟩

def connect (gateway : Gateway) (client : ClientId) (space : Space) (outbox : Outbox) : Gateway :=
  { gateway with
    registry := gateway.registry.connect client space
    outboxes := gateway.outboxes.set client outbox }

def waiting (gateway : Gateway) (client : ClientId) : List ServerMessage :=
  ((gateway.outboxes.get? client).map Outbox.waiting).getD []

def drain (gateway : Gateway) (client : ClientId) : Gateway :=
  { gateway with outboxes := gateway.outboxes.modify client Outbox.drain }

def closeOutbox (gateway : Gateway) (client : ClientId) : Gateway :=
  { gateway with outboxes := gateway.outboxes.modify client Outbox.close }

def authenticate (gateway : Gateway) (client : ClientId) (identity : Identity) : Report Bool :=
  gateway.carryOut (gateway.registry.authenticate client identity)

def requestJoin (gateway : Gateway) (client : ClientId) (room : Room) : Report JoinAnswer :=
  gateway.carryOut (gateway.registry.requestJoin client room)

def leave (gateway : Gateway) (client : ClientId) (room : Room) : Report Unit :=
  gateway.carryOut (gateway.registry.leave client room)

def disconnect (gateway : Gateway) (client : ClientId) : Report Unit :=
  gateway.carryOut (gateway.registry.disconnect client)

def login (gateway : Gateway) (client : ClientId)
    (found : Except Session.AuthError Identity) : Report Bool :=
  match found with
  | .ok identity => gateway.authenticate client identity
  | .error _ => ⟨false, gateway, [], []⟩

def emitExcept (gateway : Gateway) (room : Room) (sender : ClientId) (message : ServerMessage) :
    Report Nat :=
  let others := (gateway.registry.members room).filter fun member => member.client ≠ sender
  let (after, postings) := gateway.post (Presence.toAll others message)
  ⟨acceptedCount postings, after, [], postings⟩

/-! ## Pointers -/

/-- A pointer event with its sender on it, and the page it is for. Nothing comes
of an event whose sender is unknown or in no page room. -/
def stampedPointer (registry : Registry) (sender : ClientId) (event : PointerEvent) :
    Option (Room × ServerMessage) := do
  let (identity, room) ← registry.senderContext sender .page
  return (room, .mousePointer (event.stamped identity sender.text))

def relay (gateway : Gateway) (sender : ClientId) (event : PointerEvent) : Report Nat :=
  match stampedPointer gateway.registry sender event with
  | some (room, message) => gateway.emitExcept room sender message
  | none => ⟨0, gateway, [], []⟩

/-! ## Frames -/

/-- Apply a frame of a connection that was opened for a family of rooms. Pointers
count on pages only. -/
def dispatch (gateway : Gateway) (client : ClientId) (space : Space) (message : ClientMessage) :
    Report Unit :=
  match message with
  | .startEdit resource =>
      let report := gateway.requestJoin client ⟨space, resource⟩
      ⟨(), report.gateway, report.movements, report.postings⟩
  | .leaveEdit resource => gateway.leave client ⟨space, resource⟩
  | .mousePointer event =>
      match space with
      | .page =>
          let report := gateway.relay client event
          ⟨(), report.gateway, report.movements, report.postings⟩
      | .app => ⟨(), gateway, [], []⟩

/-! ## Notices -/

/-- The live connections that listen for anybody in an audience, each once. -/
def targets (registry : Registry) (audience : Audience) : List ClientId :=
  ((audience.flatMap registry.listeners).filter registry.isLive).eraseDups

def deliverTo (gateway : Gateway) (clients : List ClientId) (notice : Notice) : Report Nat :=
  let (after, postings) := gateway.post (clients.map fun client => ⟨client, .change notice⟩)
  ⟨acceptedCount postings, after, [], postings⟩

def deliver (gateway : Gateway) (audience : Audience) (notice : Notice) : Report Nat :=
  gateway.deliverTo (targets gateway.registry audience) notice

end Gateway

end SharedEditing
