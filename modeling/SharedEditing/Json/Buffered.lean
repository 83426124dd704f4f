import SharedEditing.Json.FreeForm
import SharedEditing.Json.Shape

/-! # JSON that is read ahead

A value that stands before it is known what it should be is read as it comes, and read again
when that is known. Every part of it must be readable, and only so many arrays and objects may
be open. Members keep their order and their repetitions. -/

namespace SharedEditing

inductive Buffered where
  | null
  | bool (value : Bool)
  | number (value : Number)
  | string (text : String)
  | array (items : List Buffered)
  | object (members : List (String × Buffered))
  deriving Repr, Inhabited

namespace Buffered

/-! ## Reading ahead -/

mutual

/-- Read a value ahead, with so many arrays and objects left to open. -/
def ofWritten? : (levels : Nat) → Written → Option Buffered
  | _, .null => some null
  | _, .bool value => some (bool value)
  | _, .number value => value.map number
  | _, .string text => text.map string
  | levels, .array items =>
      match levels with
      | 0 => none
      | levels + 1 => (ofItems? levels items).map array
  | levels, .object members =>
      match levels with
      | 0 => none
      | levels + 1 => (ofMembers? levels members).map object

def ofItems? : (levels : Nat) → List Written → Option (List Buffered)
  | _, [] => some []
  | levels, item :: rest =>
      match ofWritten? levels item, ofItems? levels rest with
      | some item, some items => some (item :: items)
      | _, _ => none

def ofMembers? : (levels : Nat) → List (Option String × Written) →
    Option (List (String × Buffered))
  | _, [] => some []
  | levels, (key, item) :: rest =>
      match key, ofWritten? levels item, ofMembers? levels rest with
      | some key, some item, some members => some ((key, item) :: members)
      | _, _, _ => none

end

/-! ## Reading what was read -/

def string? : Buffered → Option String
  | string text => some text
  | _ => none

def optional? {α : Type} (read : Buffered → Option α) : Option Buffered → Option (Option α)
  | none => some none
  | some null => some none
  | some value => (read value).map some

def fields? (declared : List Written.Field) : Buffered → Option (List (Option Buffered))
  | object members => declared.mapM (Written.member? members)
  | array items => Written.places? declared items
  | _ => none

def isEmbedding : List (String × Buffered) → Bool
  | (key, _) :: _ => key == Written.embeddedKey
  | [] => false

def embeddedText? : List (String × Buffered) → Option String
  | [(_, string text)] => some text
  | _ => none

mutual

def valueWith? (embedded? : String → Option Json) : Buffered → Option Json
  | null => some .null
  | bool value => some (.bool value)
  | number value => some (.number value)
  | string text => some (.string text)
  | array items => (itemValues? embedded? items).map .array
  | object members =>
      if isEmbedding members then (embeddedText? members).bind embedded?
      else
        (memberValues? embedded? members).map fun values => .object (Members.ofList values)

def itemValues? (embedded? : String → Option Json) : List Buffered → Option (List Json)
  | [] => some []
  | item :: rest =>
      match valueWith? embedded? item, itemValues? embedded? rest with
      | some value, some values => some (value :: values)
      | _, _ => none

def memberValues? (embedded? : String → Option Json) :
    List (String × Buffered) → Option (List (String × Json))
  | [] => some []
  | (key, item) :: rest =>
      match valueWith? embedded? item, memberValues? embedded? rest with
      | some value, some values => some ((key, value) :: values)
      | _, _ => none

end

def freeMembers? (members : List (String × Buffered)) : Option Members :=
  (memberValues? Json.ofText? members).map Members.ofList

end Buffered

end SharedEditing
