/-! # Rooms

Two families of rooms stand side by side, one for applications and one for the
editing of pages. A room belongs to one of them and is about one resource, so
rooms of different families are unrelated even where they share a resource. -/

namespace SharedEditing

/-- A family of rooms, with an endpoint and presence rules of its own. -/
inductive Space where
  | app
  | page
  deriving DecidableEq, Repr

namespace Space

def roomLabel : Space → String
  | app => "app:"
  | page => "page:"

def path : Space → String
  | app => "/"
  | page => "/page/edit"

end Space

structure Room where
  space : Space
  resource : String
  deriving DecidableEq, Repr

def Room.name (room : Room) : String := room.space.roomLabel ++ room.resource

end SharedEditing
