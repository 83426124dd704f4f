/-! # Waiting

Times are counted in milliseconds, in an unsigned 64-bit word. Whoever waits for a
span of time wakes after thirty years at the latest, and never later than the last
time that can be waited for: from then on nobody waits any more. -/

namespace SharedEditing

def longestWait : Nat := 30 * 365 * 24 * 60 * 60 * 1000

/-- The last time that can be waited for. The two greatest words are kept for marks. -/
def lastWakeTime : Nat := Nat.pow 2 64 - 3

/-- When somebody who begins to wait at `start` wakes. A longer span than thirty years is cut
short even where its end could be counted. -/
def wakeTime (start span : Nat) : Nat := min (start + min span longestWait) lastWakeTime

example : wakeTime 5 10 = 15 := by rfl

end SharedEditing
