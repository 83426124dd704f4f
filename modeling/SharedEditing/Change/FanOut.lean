import SharedEditing.Change.Event

/-! # Fanning a change out

A change is delivered to the people entitled to see it. Who they are is read
from the changed document itself, each time anew. A comment also needs the
application of its thread, which is looked up before anything else is decided.
The services that look up threads and deliver notices may live in any monad. -/

namespace SharedEditing

inductive LookupError where
  | database (reason : String)
  | invalidThread (id : String)
  | missingApplication (id : String)
  deriving DecidableEq, Repr

def LookupError.message : LookupError → String
  | database reason => "Datastore error: " ++ reason
  | invalidThread id => "Invalid thread id: " ++ id
  | missingApplication id => "Thread " ++ id ++ " has no applicationId"

inductive DropReason where
  | defect (defect : Defect)
  | lookupFailed (reason : String)
  | threadNotFound (id : String)
  | threadWithoutApplication (id : String)
  deriving DecidableEq, Repr

namespace DropReason

def message : DropReason → String
  | defect cause => cause.message
  | lookupFailed reason => "Parent thread lookup failed: " ++ reason
  | threadNotFound id => "Parent thread " ++ id ++ " not found"
  | threadWithoutApplication id => "Parent thread " ++ id ++ " has no applicationId"

def ofLookupError : LookupError → DropReason
  | .missingApplication id => threadWithoutApplication id
  | error => lookupFailed error.message

end DropReason

inductive Outcome where
  /-- Handed to so many connections of the people entitled to see it. -/
  | delivered (event : String) (connections : Nat)
  /-- Nobody is entitled to see it. -/
  | suppressed (event : String)
  | dropped (reason : DropReason)
  deriving DecidableEq, Repr

structure Services (m : Type → Type) where
  /-- The application of a thread; none if there is no such thread. -/
  applicationOf : (thread : String) → m (Except LookupError (Option String))
  /-- Hand a notice to an audience, and say how many connections took it. -/
  deliver : Audience → Notice → m Nat

namespace FanOut

structure Addressed where
  audience : Audience
  event : Event
  deriving Repr

def readers (event : Event) : Audience :=
  match event.collection.readPermission? with
  | some permission => Audience.entitled event.policies permission
  | none => []

def applicationFound (thread : String) :
    Except LookupError (Option String) → Except DropReason String
  | .error error => .error (.ofLookupError error)
  | .ok none => .error (.threadNotFound thread)
  | .ok (some application) => .ok application

/-- Find out who an event is for, and finish it. Only a comment needs a look-up. -/
def address {m : Type → Type} [Monad m] (services : Services m) (event : Event) :
    m (Except DropReason Addressed) :=
  match event.collection with
  | .comment =>
      match event.threadId with
      | .error defect => pure (.error (.defect defect))
      | .ok thread => do
          let found ← services.applicationOf thread
          match applicationFound thread found with
          | .error reason => return .error reason
          | .ok application => return .ok ⟨readers event, event.prepareComment application⟩
  | .commentThread => pure (.ok ⟨readers event, event.prepareThread⟩)
  | .notification =>
      match event.prepareNotification with
      | .error defect => pure (.error (.defect defect))
      | .ok (owner, event) => pure (.ok ⟨[owner], event⟩)

def emit {m : Type → Type} [Monad m] (services : Services m) (addressed : Addressed) :
    m Outcome :=
  if addressed.audience.isEmpty then
    pure (.suppressed addressed.event.name)
  else do
    let connections ← services.deliver addressed.audience addressed.event.notice
    return .delivered addressed.event.name connections

/-- Process one change. It never fails: what cannot be delivered is dropped for a reason. -/
def handle {m : Type → Type} [Monad m] (services : Services m) (change : Change) : m Outcome :=
  match Event.ofChange change with
  | .error defect => pure (.dropped (.defect defect))
  | .ok event => do
      match ← address services event with
      | .error reason => return .dropped reason
      | .ok addressed => emit services addressed

end FanOut

end SharedEditing
