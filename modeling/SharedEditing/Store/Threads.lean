import SharedEditing.Change.FanOut
import SharedEditing.Json.Printer
import SharedEditing.Text.Blank

/-! # Threads of the store

The application of a thread is one member of its document. The store projects
that member as text and sends nothing else. -/

namespace SharedEditing

/-- Asks for the application member of a thread's row, as text. The outer option
is for the row and the inner one for the member. -/
abbrev ApplicationQuery (m : Type → Type) :=
  (thread : String) → m (Except String (Option (Option String)))

namespace Json

/-- A member as text: a string as it is, other values as they are printed. Null is
no text, and only an object has members. -/
def fieldText? (value : Json) (key : String) : Option String :=
  match value.field? key with
  | none => none
  | some null => none
  | some (string text) => some text
  | some other => some other.text

end Json

namespace StoreThreads

def applicationKey : String := "applicationId"

def fetchFailure (thread reason : String) : LookupError :=
  .database ("Failed to fetch thread " ++ thread ++ ": " ++ reason)

def answered (thread : String) :
    Except String (Option (Option String)) → Except LookupError (Option String)
  | .error reason => .error (fetchFailure thread reason)
  | .ok none => .ok none
  | .ok (some none) => .error (.missingApplication thread)
  | .ok (some (some application)) =>
      if application.isEmpty then .error (.missingApplication thread) else .ok (some application)

/-- The application of a thread. A blank id is refused without asking. -/
def applicationOf {m : Type → Type} [Monad m] (query : ApplicationQuery m) (thread : String) :
    m (Except LookupError (Option String)) :=
  if Text.isAllBlank thread then
    pure (.error (.invalidThread thread))
  else do
    return answered thread (← query thread)

end StoreThreads

end SharedEditing
