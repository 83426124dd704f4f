import SharedEditing.Settings.Reading

/-! # Settings from a record

Settings written as a JSON value. Unknown fields are passed over, and nothing is
converted. -/

namespace SharedEditing

def Stage.read? (written : Written) : Option Stage := do
  let name ← written.choice?
  Stage.all.find? fun stage => stage.name == name

def Written.isNull : Written → Bool
  | null => true
  | _ => false

def Reading.record : Reading Written where
  fields? := Written.fields?
  text? := Written.string?
  natural? := Written.natBelow?
  switch? := Written.bool?
  stage? := Stage.read?
  isNothing := Written.isNull

def Settings.read? (written : Written) : Option Settings := Reading.record.settings? written

end SharedEditing
