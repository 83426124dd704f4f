import SharedEditing.Json.Basic

/-! # JSON as it is written

A text of correct syntax need not stand for a value throughout: a number may be
out of range, and a string or a key may hold an escape for half a character.
Such a part is `none` here, so that it can be passed over where it is not read,
and is refused where it is. Members keep their order and their repetitions. -/

namespace SharedEditing

inductive Written where
  | null
  | bool (value : Bool)
  | number (value : Option Number)
  | string (text : Option String)
  | array (items : List Written)
  | object (members : List (Option String × Written))
  deriving Repr, Inhabited

namespace Written

mutual

def isReadable : Written → Bool
  | number value => value.isSome
  | string text => text.isSome
  | array items => itemsReadable items
  | object members => membersReadable members
  | _ => true

def itemsReadable : List Written → Bool
  | [] => true
  | item :: rest => isReadable item && itemsReadable rest

def membersReadable : List (Option String × Written) → Bool
  | [] => true
  | (key, item) :: rest => key.isSome && isReadable item && membersReadable rest

end

mutual

def height : Written → Nat
  | array items => itemsHeight items + 1
  | object members => membersHeight members + 1
  | _ => 0

def itemsHeight : List Written → Nat
  | [] => 0
  | item :: rest => max (height item) (itemsHeight rest)

def membersHeight : List (Option String × Written) → Nat
  | [] => 0
  | (_, item) :: rest => max (height item) (membersHeight rest)

end

mutual

def ofValue : Json → Written
  | .null => null
  | .bool value => bool value
  | .number value => number (some value)
  | .string text => string (some text)
  | .array items => array (ofItems items)
  | .object members => object (ofMembers members)

def ofItems : List Json → List Written
  | [] => []
  | item :: rest => ofValue item :: ofItems rest

def ofMembers : List (String × Json) → List (Option String × Written)
  | [] => []
  | (key, value) :: rest => (some key, ofValue value) :: ofMembers rest

end

/-- The members of an object that is read: every key must stand for text. -/
def keyed? : List (Option String × Written) → Option (List (String × Written))
  | [] => some []
  | (key, item) :: rest =>
      match key, keyed? rest with
      | some key, some members => some ((key, item) :: members)
      | _, _ => none

def string? : Written → Option String
  | string text => text
  | _ => none

/-- An absent value and null are both no value. -/
def optional? {α : Type} (read : Written → Option α) : Option Written → Option (Option α)
  | none => some none
  | some null => some none
  | some written => (read written).map some

def list? {α : Type} (read : Written → Option α) : Written → Option (List α)
  | array items => items.mapM read
  | _ => none

end Written

end SharedEditing
