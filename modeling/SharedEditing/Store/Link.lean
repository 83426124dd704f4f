/-! # The link to the store

Whether the store can be asked at all, and what is said when it cannot. -/

namespace SharedEditing

inductive Link where
  | up
  /-- The network does not lead to the store. -/
  | down (cause : String)
  /-- This side has given the link up. -/
  | closed
  deriving DecidableEq, Repr

namespace Link

def unreachable : Link := down "Network is unreachable (os error 101)"

def refused : Link := down "Connection refused (os error 111)"

def fault? : Link → Option String
  | up => none
  | down cause => some ("error communicating with database: " ++ cause)
  | closed => some "attempted to acquire a connection on a closed pool"

end Link

end SharedEditing
