import SharedEditing.Change.Collection
import SharedEditing.Json.Reader
import SharedEditing.Json.Shape

/-! # Announcements of the store

The store announces every change of a row on the channel of its collection. An
announcement is a record that names the operation and the row; what the row
holds has to be asked for. -/

namespace SharedEditing

structure Announcement where
  operation : Operation
  id : String
  deriving DecidableEq, Repr

namespace Announcement

inductive Fault where
  /-- It is no record of an operation and an id. -/
  | unreadable
  | emptyId
  deriving DecidableEq, Repr

def Fault.message : Fault → String
  | unreadable => "not a record of an operation and an id"
  | emptyId => "empty id"

def declared : List Written.Field := [⟨"operationType", .refused⟩, ⟨"id", .refused⟩]

def record? (written : Written) : Option Announcement :=
  match Written.fields? declared written with
  | some [some operation, some id] => do
      let operation ← Operation.ofName? (← operation.choice?)
      let id ← id.string?
      return ⟨operation, id⟩
  | _ => none

/-- Read an announcement. Its id must not be empty. -/
def ofText (text : String) : Except Fault Announcement :=
  match (Written.ofText? text).bind record? with
  | none => .error .unreadable
  | some announcement =>
      if announcement.id.isEmpty then .error .emptyId else .ok announcement

end Announcement

end SharedEditing
