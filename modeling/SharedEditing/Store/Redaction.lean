import SharedEditing.Change.Collection
import SharedEditing.Json.Basic

/-! # What a stored document shows

A stored document is asked for without the internal fields of its collection, so
that these never leave the store. A reader of the document finds its row id
under the id key. -/

namespace SharedEditing

namespace Json

/-- Remove the named members of an object, or the named strings of an array.
Nothing can be removed from a single value. -/
def without? (names : List String) : Json → Option Json
  | object members => some (object (Members.eraseAll members names))
  | array items =>
      some (array (items.filter fun item =>
        match item.string? with
        | some text => !names.contains text
        | none => true))
  | _ => none

end Json

namespace Redaction

def idKey : String := "_id"

/-- A document carries the id of its row, unless it has one of its own. -/
def withId (id : String) (document : Members) : Members :=
  if document.has idKey then document else document.insert idKey (.string id)

/-- The document that a value from the store shows. Only an object is one. -/
def document? (id : String) (value : Json) : Option Members :=
  value.object?.map (withId id)

end Redaction

end SharedEditing
