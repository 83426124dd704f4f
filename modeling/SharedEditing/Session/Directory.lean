import SharedEditing.Session.Resolver
import SharedEditing.Table

/-! # Sessions kept in memory

A directory of sessions that stands in for the session service. An error may be
forced on everybody who presents a credential. -/

namespace SharedEditing.Session

structure Directory where
  sessions : Table String Identity := {}
  forced : Option AuthError := none
  /-- How often somebody with a credential asked. -/
  calls : Nat := 0

namespace Directory

def find (directory : Directory) : Option Credential → Except AuthError Identity
  | none => .error .missingCredential
  | some credential =>
      match directory.forced with
      | some error => .error error
      | none =>
          match directory.sessions.get? credential.value with
          | some identity => .ok identity
          | none => .error .invalidSession

/-- Asking without a credential does not count. -/
def counted (directory : Directory) : Option Credential → Directory
  | none => directory
  | some _ => { directory with calls := directory.calls + 1 }

end Directory

end SharedEditing.Session
