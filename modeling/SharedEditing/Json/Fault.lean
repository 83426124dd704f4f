/-! # What can be wrong with a text

The reasons for which a text stands for no JSON value, in words, and the place of
one in the text. Lines count from one. A column is the number of bytes on the line
up to the fault, with the byte at fault among them if there is one. -/

namespace SharedEditing

inductive TextFault where
  | endInValue
  | endInString
  | endInArray
  | endInObject
  | expectedValue
  /-- A word that begins like `null`, `true` or `false` and is none of them. -/
  | expectedWord
  | expectedColon
  | expectedItemEnd
  | expectedMemberEnd
  | keyNotString
  | trailingComma
  | trailingText
  | badEscape
  | controlCharacter
  /-- An escape for half of a character, where a whole one must stand. -/
  | loneHalf
  /-- No escape follows one for the first half of a character. -/
  | missingHalf
  | badNumber
  | numberTooLarge
  | tooDeep
  /-- Something other than a string where a text is embedded. -/
  | notEmbedded (found : String)
  deriving DecidableEq, Repr

namespace TextFault

def message : TextFault → String
  | endInValue => "EOF while parsing a value"
  | endInString => "EOF while parsing a string"
  | endInArray => "EOF while parsing a list"
  | endInObject => "EOF while parsing an object"
  | expectedValue => "expected value"
  | expectedWord => "expected ident"
  | expectedColon => "expected \x60:\x60"
  | expectedItemEnd => "expected \x60,\x60 or \x60]\x60"
  | expectedMemberEnd => "expected \x60,\x60 or \x60\x7d\x60"
  | keyNotString => "key must be a string"
  | trailingComma => "trailing comma"
  | trailingText => "trailing characters"
  | badEscape => "invalid escape"
  | controlCharacter => "control character (\\u0000-\\u001F) found while parsing a string"
  | loneHalf => "lone leading surrogate in hex escape"
  | missingHalf => "unexpected end of hex escape"
  | badNumber => "invalid number"
  | numberTooLarge => "number out of range"
  | tooDeep => "recursion limit exceeded"
  | notEmbedded found => "invalid type: " ++ found ++ ", expected raw value"

end TextFault

structure Place where
  line : Nat := 1
  column : Nat := 0
  deriving DecidableEq, Repr

namespace Place

def after (place : Place) (character : Char) : Place :=
  if character = '\n' then ⟨place.line + 1, 0⟩
  else { place with column := place.column + character.utf8Size }

/-- The place so many bytes further on, or at the end of the text. -/
def forward (place : Place) : (bytes : Nat) → (text : List Char) → Place
  | 0, _ => place
  | _, [] => place
  | bytes, character :: rest =>
      if character.utf8Size ≤ bytes then
        forward (place.after character) (bytes - character.utf8Size) rest
      else
        { place with column := place.column + bytes }

end Place

structure LocatedFault where
  fault : TextFault
  place : Place
  deriving DecidableEq, Repr

namespace LocatedFault

def message (located : LocatedFault) : String :=
  located.fault.message ++ " at line " ++ toString located.place.line ++ " column " ++
    toString located.place.column

end LocatedFault

example : LocatedFault.message ⟨.expectedColon, ⟨1, 5⟩⟩ =
    "expected \x60:\x60 at line 1 column 5" := by
  rfl

end SharedEditing
