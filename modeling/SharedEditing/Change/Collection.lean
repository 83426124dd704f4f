/-! # Watched collections

Documents of three collections are watched. A collection fixes the name and the
payload key of its events, the fields that never leave the server, and the
permission that a reader needs. -/

namespace SharedEditing

inductive Collection where
  | comment
  | commentThread
  | notification
  deriving DecidableEq, Repr

inductive Operation where
  | insert
  | update
  | replace
  | delete
  deriving DecidableEq, Repr

namespace Collection

def all : List Collection := [comment, commentThread, notification]

def name : Collection → String
  | comment => "comment"
  | commentThread => "commentThread"
  | notification => "notification"

def payloadKey : Collection → String
  | comment => "comment"
  | commentThread => "thread"
  | notification => "notification"

def internalFields : Collection → List String
  | comment => ["deletedAt", "_class"]
  | commentThread => ["deletedAt", "_class"]
  | notification => ["deletedAt", "deleted"]

/-- A notification is addressed to its owner and needs no permission. -/
def readPermission? : Collection → Option String
  | comment => some "read:comments"
  | commentThread => some "read:commentThreads"
  | notification => none

def table : Collection → String
  | comment => "comment"
  | commentThread => "comment_thread"
  | notification => "notification"

def channel (collection : Collection) : String := collection.table ++ "_changes"

def ofName? (name : String) : Option Collection :=
  all.find? fun collection => collection.name == name

end Collection

namespace Operation

def all : List Operation := [insert, update, replace, delete]

def name : Operation → String
  | insert => "insert"
  | update => "update"
  | replace => "replace"
  | delete => "delete"

def ofName? (name : String) : Option Operation :=
  all.find? fun operation => operation.name == name

end Operation

end SharedEditing
