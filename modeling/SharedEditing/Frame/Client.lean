import SharedEditing.Frame.Server
import SharedEditing.Json.Reader

/-! # Messages from clients

A frame is an object with a name under `event` and a payload under `data`, in
either order and among any other members, or an array of the two. In the object
the name may be written in either way that a choice is written, in the array as
a string only. A payload that stands before its name is read ahead, before it is
known what it should be. -/

namespace SharedEditing

inductive ClientMessage where
  /-- Start editing a resource. -/
  | startEdit (resource : String)
  /-- Stop editing a resource. -/
  | leaveEdit (resource : String)
  | mousePointer (event : PointerEvent)
  deriving Repr

namespace ClientMessage

def payloadLevels : Nat := Written.nestingLimit - 1

def ofPayload? (name : String) (data : Written) : Option ClientMessage := do
  if name = startEditEvent then
    return startEdit (← data.string?)
  else if name = leaveEditEvent then
    return leaveEdit (← data.string?)
  else if name = mousePointerEvent then
    return mousePointer (← PointerEvent.read? payloadLevels data)
  else
    none

/-- The payload that belongs to a name, where it was read ahead. -/
def ofBuffered? (name : String) (data : Buffered) : Option ClientMessage := do
  if name = startEditEvent then
    return startEdit (← data.string?)
  else if name = leaveEditEvent then
    return leaveEdit (← data.string?)
  else if name = mousePointerEvent then
    return mousePointer (← PointerEvent.ofBuffered? data)
  else
    none

def payloadFirst (members : List (String × Written)) : Bool :=
  match members.find? fun member => member.1 == "event" || member.1 == "data" with
  | some (name, _) => name == "data"
  | none => false

def ofWritten? : Written → Option ClientMessage
  | .object members => do
      let members ← Written.keyed? members
      match Written.occurrences members "event", Written.occurrences members "data" with
      | [event], [data] =>
          if payloadFirst members then
            let data ← Buffered.ofWritten? payloadLevels data
            ofBuffered? (← event.choice?) data
          else
            ofPayload? (← event.choice?) data
      | _, _ => none
  | .array [.string (some name), data] => ofPayload? name data
  | _ => none

def ofText? (text : String) : Option ClientMessage :=
  (Written.ofText? text).bind ofWritten?

end ClientMessage

end SharedEditing
