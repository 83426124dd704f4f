import SharedEditing.Text.Blank
import SharedEditing.Change.Audience
import SharedEditing.Change.Collection

/-! # From a change to an event

A change says what happened to a document and carries the document as it is
afterwards. The event made from it has no internal fields, reports a document
that is marked as deleted as a deletion, and is named after the operation and
the collection. Then each collection adds what its readers expect. -/

namespace SharedEditing

structure Change where
  collection : Collection
  operation : Operation
  id : String
  /-- Absent once the document is gone. -/
  document : Option Members
  deriving Repr

inductive Defect where
  | missingDocument (collection : Collection) (id : String)
  | missingField (collection : Collection) (id : String) (field : String)
  deriving DecidableEq, Repr

def Defect.message : Defect → String
  | missingDocument collection id =>
      "No full document for " ++ collection.name ++ " change on " ++ id
  | missingField collection id field =>
      collection.name ++ " document " ++ id ++ " has no usable '" ++ field ++ "'"

structure Notice where
  event : String
  payload : Json
  deriving Repr

structure Event where
  collection : Collection
  operation : Operation
  id : String
  document : Members
  deriving Repr

namespace Event

def deletionMark : String := "deleted"

def isMarkedDeleted (document : Members) : Bool :=
  match document.get? deletionMark with
  | some (.bool true) => true
  | _ => false

/-- The event of a change. The mark of deletion counts only where it is not an
internal field of the collection, and it never leaves the server. -/
def ofChange (change : Change) : Except Defect Event :=
  match change.document with
  | none => .error (.missingDocument change.collection change.id)
  | some document =>
      let visible := document.eraseAll change.collection.internalFields
      .ok
        { collection := change.collection
          operation := if isMarkedDeleted visible then .delete else change.operation
          id := change.id
          document := visible.erase deletionMark }

def name (event : Event) : String :=
  event.operation.name ++ ":" ++ event.collection.name

def policies (event : Event) : List Policy :=
  Policy.listOf (event.document.get? "policies")

def textField (event : Event) (field : String) : Except Defect String :=
  match event.document.get? field with
  | some (.string text) =>
      if text.isEmpty then .error (.missingField event.collection event.id field) else .ok text
  | _ => .error (.missingField event.collection event.id field)

def threadId (event : Event) : Except Defect String :=
  event.textField "threadId"

/-- Move a field to another name, over what stood there. -/
def renameField (document : Members) (source target : String) : Members :=
  match document.get? source with
  | some value => (document.erase source).insert target value
  | none => document

def renameTimes (document : Members) : Members :=
  renameField (renameField document "createdAt" "creationTime") "updatedAt" "updationTime"

def prepareComment (event : Event) (application : String) : Event :=
  { event with
    document := (renameTimes event.document).insert "applicationId" (.string application) }

/-- A thread is always reported unread. -/
def prepareThread (event : Event) : Event :=
  { event with document := (renameTimes event.document).insert "isViewed" (.bool false) }

def kindOfClass (className : String) : String :=
  String.ofList (Text.afterLast '.' className.toList)

/-- A notification has a type instead of a class. Its owner is returned with it. -/
def prepareNotification (event : Event) : Except Defect (String × Event) := do
  let owner ← event.textField "forUsername"
  let className ← event.textField "_class"
  let document := (event.document.erase "_class").insert "type" (.string (kindOfClass className))
  return (owner, { event with document })

def notice (event : Event) : Notice where
  event := event.name
  payload := .object [(event.collection.payloadKey, .object event.document)]

end Event

end SharedEditing
