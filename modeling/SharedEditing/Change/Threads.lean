import SharedEditing.Change.FanOut
import SharedEditing.Table

/-! # Services kept in memory

Threads in a table, and channels that only record what is delivered to them.
With them fan-out runs on its own. -/

namespace SharedEditing

structure ThreadTable where
  /-- None for a thread that has no application. -/
  applications : Table String (Option String) := {}
  isFailing : Bool := false
  lookups : Nat := 0

namespace ThreadTable

def find (threads : ThreadTable) (thread : String) : Except LookupError (Option String) :=
  if threads.isFailing then .error (.database "lookup failed")
  else
    match threads.applications.get? thread with
    | none => .ok none
    | some (some application) => .ok (some application)
    | some none => .error (.missingApplication thread)

/-- Looking up is counted whether it fails or not. -/
def counted (threads : ThreadTable) : ThreadTable :=
  { threads with lookups := threads.lookups + 1 }

def setApplication (threads : ThreadTable) (thread : String) (application : Option String) :
    ThreadTable :=
  { threads with applications := threads.applications.set thread application }

end ThreadTable

structure Delivery where
  audience : Audience
  notice : Notice
  deriving Repr

structure Recorder where
  threads : ThreadTable := {}
  deliveries : List Delivery := []

namespace Recorder

/-- Everybody in an audience counts as one connection. -/
def services : Services (StateM Recorder) where
  applicationOf thread := do
    let recorder ← get
    set { recorder with threads := recorder.threads.counted }
    return recorder.threads.find thread
  deliver audience notice := do
    modify fun recorder =>
      { recorder with deliveries := recorder.deliveries ++ [⟨audience, notice⟩] }
    return audience.length

def handle (recorder : Recorder) (change : Change) : Outcome × Recorder :=
  (FanOut.handle services change).run recorder

def receivedBy (recorder : Recorder) (email : String) : List Notice :=
  (recorder.deliveries.filter fun delivery => delivery.audience.contains email).map
    Delivery.notice

end Recorder

end SharedEditing
