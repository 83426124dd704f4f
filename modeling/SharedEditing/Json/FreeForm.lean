import SharedEditing.Json.Reader

/-! # Free-form values

Where no shape is expected, what is written stands for a JSON value, and every
part of it must be readable. One kind of object stands for something else: when
its first member has the key `embeddedKey`, that member holds the text of another
value, which takes the place of the object. The text is read like any other, so
it may hold such objects in turn. -/

namespace SharedEditing

namespace Written

/-- The key of a member that holds the text of a value. -/
def embeddedKey : String := "$serde_json::private::RawValue"

/-- Whether an object stands for the value in a text. Its first key decides. -/
def isEmbedding : List (Option String × Written) → Bool
  | (some key, _) :: _ => key == embeddedKey
  | _ => false

def embeddedText? : List (Option String × Written) → Option String
  | [(_, string text)] => text
  | _ => none

mutual

/-- The free-form value: sorted members, of equal keys the last. The first argument
reads the texts that are embedded. -/
def valueWith? (embedded? : String → Option Json) : Written → Option Json
  | null => some .null
  | bool value => some (.bool value)
  | number value => value.map .number
  | string text => text.map .string
  | array items => (itemValues? embedded? items).map .array
  | object members =>
      if isEmbedding members then (embeddedText? members).bind embedded?
      else
        (memberValues? embedded? members).map fun values => .object (Members.ofList values)

def itemValues? (embedded? : String → Option Json) : List Written → Option (List Json)
  | [] => some []
  | item :: rest =>
      match valueWith? embedded? item, itemValues? embedded? rest with
      | some value, some values => some (value :: values)
      | _, _ => none

def memberValues? (embedded? : String → Option Json) :
    List (Option String × Written) → Option (List (String × Json))
  | [] => some []
  | (key, item) :: rest =>
      match key, valueWith? embedded? item, memberValues? embedded? rest with
      | some key, some value, some values => some ((key, value) :: values)
      | _, _, _ => none

end

end Written

namespace Json

/-- The value of a text in which fewer than `depth` texts are embedded in one
another. Each is a text of its own, and may nest as deep as any. -/
def ofTextWithin? : (depth : Nat) → (text : String) → Option Json
  | 0, _ => none
  | depth + 1, text =>
      match Written.ofText? text with
      | some written =>
          if written.height ≤ Written.nestingLimit then written.valueWith? (ofTextWithin? depth)
          else none
      | none => none

/-- The value of a text. An embedded text is shorter than the text it stands in, so
their number is bounded by its length. -/
def ofText? (text : String) : Option Json := ofTextWithin? (text.length + 1) text

end Json

namespace Written

def value? (written : Written) : Option Json := written.valueWith? Json.ofText?

/-- The members of an object that is known to be one, so that no key of it marks an
embedded text. -/
def freeMembers? (members : List (Option String × Written)) : Option Members :=
  (memberValues? Json.ofText? members).map Members.ofList

end Written

end SharedEditing
