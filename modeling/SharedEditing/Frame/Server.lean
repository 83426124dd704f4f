import SharedEditing.Change.Event
import SharedEditing.Frame.Pointer
import SharedEditing.Json.Printer

/-! # Messages to clients

Every message is one frame: an object with the event's name and its data. -/

namespace SharedEditing

/-- The names of the events that are not change notices. -/
def editorsEvent : String := "collab:online_editors"

def startEditEvent : String := "collab:start_edit"

def leaveEditEvent : String := "collab:leave_edit"

def mousePointerEvent : String := "collab:mouse_pointer"

structure OnlineEditors where
  resource : String
  users : List Identity
  deriving DecidableEq, Repr

namespace OnlineEditors

def json (editors : OnlineEditors) : Json :=
  .object
    [("resourceId", .string editors.resource), ("users", .array (editors.users.map Identity.json))]

def read? (written : Written) : Option OnlineEditors :=
  match written.fields? [⟨"resourceId", .refused⟩, ⟨"users", .refused⟩] with
  | some [some resource, some users] => do
      let resource ← resource.string?
      let users ← Written.list? Identity.read? users
      return ⟨resource, users⟩
  | _ => none

end OnlineEditors

inductive ServerMessage where
  /-- Everyone in an application room. -/
  | onlineEditors (editors : OnlineEditors)
  /-- A connection left a page room. -/
  | leaveEdit (connection : String)
  | mousePointer (event : PointerEvent)
  | change (notice : Notice)
  deriving Repr

namespace ServerMessage

def eventName : ServerMessage → String
  | onlineEditors _ => editorsEvent
  | leaveEdit _ => leaveEditEvent
  | mousePointer _ => mousePointerEvent
  | change notice => notice.event

def data : ServerMessage → Json
  | onlineEditors editors => editors.json
  | leaveEdit connection => .string connection
  | mousePointer event => event.json
  | change notice => notice.payload

def frame (message : ServerMessage) : String :=
  (Json.object [("event", .string message.eventName), ("data", message.data)]).text

end ServerMessage

end SharedEditing
