import SharedEditing.Identity
import SharedEditing.Json.FreeForm

/-! # Pointer events

A pointer event carries whatever position fields the client sent. Who moved the
pointer stands beside them and is not part of the position. -/

namespace SharedEditing

structure PointerEvent where
  user : Option Identity
  socketId : Option String
  /-- The other members, sorted by key. -/
  position : Members
  deriving Repr

namespace PointerEvent

def userKey : String := "user"

def socketKey : String := "socketId"

def isPosition (key : String) : Bool := key != userKey && key != socketKey

theorem isPosition_iff {key : String} :
    isPosition key = true ↔ key ≠ userKey ∧ key ≠ socketKey := by
  simp [isPosition]

def positionOf (members : List (String × Written)) : List (Option String × Written) :=
  (members.filter fun member => isPosition member.1).map fun member => (some member.1, member.2)

/-- A pointer event must be an object. Its position may be anything of at most
`levels - 1` open arrays and objects. -/
def read? (levels : Nat) : Written → Option PointerEvent
  | .object members => do
      let members ← Written.keyed? members
      let user ← Written.member? members ⟨userKey, .noValue⟩
      let user ← Written.optional? Identity.read? user
      let socket ← Written.member? members ⟨socketKey, .noValue⟩
      let socketId ← Written.optional? Written.string? socket
      let position := positionOf members
      if Written.membersHeight position < levels then
        return ⟨user, socketId, ← Written.freeMembers? position⟩
      else
        none
  | _ => none

def ofBuffered? : Buffered → Option PointerEvent
  | .object members => do
      let user ← Written.member? members ⟨userKey, .noValue⟩
      let user ← Buffered.optional? Identity.ofBuffered? user
      let socket ← Written.member? members ⟨socketKey, .noValue⟩
      let socketId ← Buffered.optional? Buffered.string? socket
      let position := members.filter fun member => isPosition member.1
      return ⟨user, socketId, ← Buffered.freeMembers? position⟩
  | _ => none

/-- The sender's identity and connection, where known, stand before the position. -/
def members (event : PointerEvent) : Members :=
  let user := match event.user with
    | some identity => [(userKey, identity.json)]
    | none => []
  let socket := match event.socketId with
    | some id => [(socketKey, .string id)]
    | none => []
  user ++ socket ++ event.position

def json (event : PointerEvent) : Json := .object event.members

def stamped (event : PointerEvent) (identity : Identity) (socket : String) : PointerEvent :=
  { event with user := some identity, socketId := some socket }

end PointerEvent

end SharedEditing
