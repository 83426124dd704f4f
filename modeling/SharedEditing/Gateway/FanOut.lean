import SharedEditing.Gateway.Basic
import SharedEditing.Change.Threads

/-! # Fan-out to connections

Changes delivered to the connections of a gateway, with threads looked up in a
table. -/

namespace SharedEditing

structure Desk where
  threads : ThreadTable := {}
  gateway : Gateway := {}
  /-- What was offered while the current change was processed. -/
  postings : List Posting := []

namespace Desk

def services : Services (StateM Desk) where
  applicationOf thread := do
    let desk ← get
    set { desk with threads := desk.threads.counted }
    return desk.threads.find thread
  deliver audience notice := do
    let desk ← get
    let report := desk.gateway.deliver audience notice
    set { desk with gateway := report.gateway, postings := desk.postings ++ report.postings }
    return report.answer

def handle (desk : Desk) (change : Change) : Outcome × Desk :=
  (SharedEditing.FanOut.handle services change).run { desk with postings := [] }

end Desk

end SharedEditing
