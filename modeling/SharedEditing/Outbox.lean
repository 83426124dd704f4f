import SharedEditing.Presence
import SharedEditing.Table

/-! # Outboxes

Messages to a connection wait in its outbox until they are taken. An outbox is
bounded and may be closed; what it does not accept is dropped and not tried
again, and nobody waits for it. -/

namespace SharedEditing

structure Outbox where
  capacity : Nat
  waiting : List ServerMessage := []
  isOpen : Bool := true
  deriving Repr

namespace Outbox

/-- The greatest capacity that an outbox can have. -/
def capacityLimit : Nat := Nat.pow 2 61 - 1

def ofCapacity? (capacity : Nat) : Option Outbox :=
  if 0 < capacity ∧ capacity ≤ capacityLimit then some { capacity } else none

def accepts (outbox : Outbox) : Bool := outbox.isOpen && outbox.waiting.length < outbox.capacity

def offer (outbox : Outbox) (message : ServerMessage) : Outbox :=
  if outbox.accepts then { outbox with waiting := outbox.waiting ++ [message] } else outbox

def close (outbox : Outbox) : Outbox := { outbox with isOpen := false, waiting := [] }

def drain (outbox : Outbox) : Outbox := { outbox with waiting := [] }

end Outbox

/-- A letter that was offered, and whether it was accepted. -/
structure Posting where
  letter : Letter
  accepted : Bool
  deriving Repr

abbrev Outboxes := Table ClientId Outbox

namespace Outboxes

def wouldAccept (outboxes : Outboxes) (client : ClientId) : Bool :=
  (outboxes.get? client).any Outbox.accepts

def post : Outboxes → List Letter → Outboxes × List Posting
  | outboxes, [] => (outboxes, [])
  | outboxes, letter :: rest =>
      let posting : Posting := ⟨letter, wouldAccept outboxes letter.recipient⟩
      let offered := outboxes.modify letter.recipient fun outbox => outbox.offer letter.message
      let (after, postings) := post offered rest
      (after, posting :: postings)

end Outboxes

def acceptedCount (postings : List Posting) : Nat :=
  (postings.filter fun posting => posting.accepted).length

end SharedEditing
