import SharedEditing.Json.Fault
import SharedEditing.Json.FreeForm
import SharedEditing.Json.Printer

/-! # Finding what is wrong with a text

A text is gone through from its beginning, as it is when its value is read, up to
the first thing that keeps it from standing for a value. What is found in an
embedded text is located in that text. -/

namespace SharedEditing.Written.Diagnosis

open Reader

structure Cursor where
  rest : List Char
  place : Place := {}
  deriving Repr

namespace Cursor

def ofText (text : String) : Cursor := { rest := text.toList }

def faultHere (cursor : Cursor) (fault : TextFault) : LocatedFault := ⟨fault, cursor.place⟩

def faultNext (cursor : Cursor) (fault : TextFault) : LocatedFault :=
  ⟨fault, cursor.place.forward 1 cursor.rest⟩

def past (cursor : Cursor) (characters : Nat) : Cursor where
  rest := cursor.rest.drop characters
  place := (cursor.rest.take characters).foldl Place.after cursor.place

def goTo (cursor : Cursor) (rest : List Char) : Cursor :=
  cursor.past (cursor.rest.length - rest.length)

def skipSpace (cursor : Cursor) : Cursor := cursor.past (cursor.rest.takeWhile isSpace).length

end Cursor

/-! ## Strings -/

/-- The unit after the mark of an escape, and the cursor after it. It must be four
bytes long. -/
def unit (cursor : Cursor) : Except LocatedFault (Nat × Cursor) :=
  let size := cursor.rest.foldr (fun character size => character.utf8Size + size) 0
  if size < 4 then .error ⟨.endInString, cursor.place.forward size cursor.rest⟩
  else
    match cursor.rest with
    | first :: second :: third :: fourth :: _ =>
        match unit? first second third fourth with
        | some code => .ok (code, cursor.past 4)
        | none => .error ⟨.badEscape, cursor.place.forward 4 cursor.rest⟩
    | _ => .error ⟨.badEscape, cursor.place.forward 4 cursor.rest⟩

def characterEscape (cursor : Cursor) : Except LocatedFault Cursor := do
  let (code, cursor) ← unit cursor
  if isLowSurrogate code then throw (cursor.faultHere .loneHalf)
  if !isHighSurrogate code then return cursor
  match cursor.rest with
  | [] => throw (cursor.faultHere .endInString)
  | '\\' :: 'u' :: _ =>
      let (second, cursor) ← unit (cursor.past 2)
      if isLowSurrogate second then return cursor
      throw (cursor.faultHere .loneHalf)
  | ['\\'] => throw ((cursor.past 1).faultHere .endInString)
  | '\\' :: _ => throw ((cursor.past 1).faultNext .missingHalf)
  | _ => throw (cursor.faultNext .missingHalf)

def string : (bound : Nat) → Cursor → Except LocatedFault Cursor
  | 0, cursor => .ok cursor
  | bound + 1, cursor =>
      match cursor.rest with
      | [] => .error (cursor.faultHere .endInString)
      | '"' :: _ => .ok (cursor.past 1)
      | ['\\'] => .error ((cursor.past 1).faultHere .endInString)
      | '\\' :: 'u' :: _ => characterEscape (cursor.past 2) >>= string bound
      | '\\' :: escaped :: _ =>
          match simpleEscape? escaped with
          | some _ => string bound (cursor.past 2)
          | none => .error ((cursor.past 1).faultNext .badEscape)
      | character :: _ =>
          if character.toNat < 0x20 then .error (cursor.faultNext .controlCharacter)
          else string bound (cursor.past 1)

def stringText (cursor : Cursor) : Except LocatedFault (String × Cursor) := do
  let after ← string (cursor.rest.length + 1) cursor
  match Reader.string? cursor.rest with
  | some (some text, _) => return (text, after)
  | _ => return ("", after)

/-! ## Numbers -/

/-- How many digits of an exponent are read until it is beyond the bound. -/
def digitsToBound : List Nat → (value : Nat) → Nat
  | [], _ => 0
  | digit :: rest, value =>
      if value * 10 + digit ≤ Numeral.greatestExponent then
        digitsToBound rest (value * 10 + digit) + 1
      else
        1

def numeralFault (cursor : Cursor) : LocatedFault :=
  match cursor.rest with
  | [] => cursor.faultHere .endInValue
  | first :: _ =>
      if !first.isDigit then cursor.faultNext .badNumber
      else
        let whole := cursor.past (cursor.rest.takeWhile Char.isDigit).length
        let (fraction, point) := match whole.rest with
          | '.' :: rest => (whole.past ((rest.takeWhile Char.isDigit).length + 1), whole.past 1)
          | _ => (whole, whole)
        if whole.rest.head? = some '.' && fraction.rest.length = point.rest.length then
          if point.rest.isEmpty then point.faultHere .endInValue else point.faultNext .badNumber
        else
          let sign := match fraction.rest with
            | _ :: '+' :: _ => fraction.past 2
            | _ :: '-' :: _ => fraction.past 2
            | _ => fraction.past 1
          if sign.rest.isEmpty then sign.faultHere .endInValue else sign.faultNext .badNumber

def leadingZero : List Char → Bool
  | '0' :: digit :: _ => digit.isDigit
  | _ => false

def number (cursor : Cursor) : Except LocatedFault (Number × Cursor) :=
  let (isNegative, unsigned) := sign cursor.rest
  let digits := if isNegative then cursor.past 1 else cursor
  if leadingZero unsigned then .error ((digits.past 1).faultNext .badNumber)
  else
    match numeral? cursor.rest with
    | none => .error (numeralFault digits)
    | some (numeral, rest) =>
        let after := cursor.goTo rest
        match numeral.number? with
        | some value => .ok (value, after)
        | none =>
            let unread := match numeral.exponent with
              | some (_, digits) => digits.length - digitsToBound digits 0
              | none => 0
            .error ⟨.numberTooLarge,
              { after.place with column := after.place.column - unread }⟩

/-! ## Values -/

def word : List Char → Cursor → Except LocatedFault Cursor
  | [], cursor => .ok cursor
  | expected :: more, cursor =>
      match cursor.rest with
      | [] => .error (cursor.faultHere .endInValue)
      | character :: _ =>
          if character = expected then word more (cursor.past 1)
          else .error (cursor.faultNext .expectedWord)

def numberName (value : Number) : String :=
  let kind := match value with
    | .integer _ => "integer"
    | .decimal _ => "floating point"
  kind ++ " \x60" ++ (Json.number value).text ++ "\x60"

def beginsNumber (character : Char) : Bool := character == '-' || character.isDigit

def notEmbedded (cursor : Cursor) : LocatedFault :=
  let found (name : String) (after : Except LocatedFault Cursor) : LocatedFault :=
    match after with
    | .ok cursor => cursor.faultHere (.notEmbedded name)
    | .error fault => fault
  match cursor.rest with
  | [] => cursor.faultHere .endInValue
  | 'n' :: _ => found "null" (word "null".toList cursor)
  | 't' :: _ => found "boolean \x60true\x60" (word "true".toList cursor)
  | 'f' :: _ => found "boolean \x60false\x60" (word "false".toList cursor)
  | '[' :: _ => cursor.faultHere (.notEmbedded "sequence")
  | '\x7b' :: _ => cursor.faultHere (.notEmbedded "map")
  | character :: _ =>
      if beginsNumber character then
        match number cursor with
        | .ok (value, after) => after.faultHere (.notEmbedded (numberName value))
        | .error fault => fault
      else
        cursor.faultNext .expectedValue

def embeddingEnd (cursor : Cursor) : Except LocatedFault Cursor :=
  match cursor.rest with
  | [] => .error (cursor.faultHere .endInObject)
  | '\x7d' :: _ => .ok (cursor.past 1)
  | ',' :: _ => .error (cursor.faultNext .trailingComma)
  | _ => .error (cursor.faultNext .trailingText)

def keyStart (isFirst : Bool) (cursor : Cursor) : Except LocatedFault Cursor :=
  match cursor.rest with
  | '"' :: _ => .ok (cursor.past 1)
  | '\x7d' :: _ => .error (cursor.faultNext .trailingComma)
  | [] => .error (cursor.faultHere (if isFirst then .endInObject else .endInValue))
  | _ => .error (cursor.faultNext .keyNotString)

def colon (cursor : Cursor) : Except LocatedFault Cursor :=
  match cursor.rest with
  | [] => .error (cursor.faultHere .endInObject)
  | ':' :: _ => .ok (cursor.past 1)
  | _ => .error (cursor.faultNext .expectedColon)

mutual

def value : (bound levels : Nat) → Cursor → Except LocatedFault Cursor
  | 0, _, cursor => .ok cursor
  | bound + 1, levels, cursor =>
      let cursor := cursor.skipSpace
      match cursor.rest with
      | [] => .error (cursor.faultHere .endInValue)
      | 'n' :: _ => word "null".toList cursor
      | 't' :: _ => word "true".toList cursor
      | 'f' :: _ => word "false".toList cursor
      | '"' :: _ => (stringText (cursor.past 1)).map Prod.snd
      | '[' :: _ =>
          if levels = 0 then .error (cursor.faultNext .tooDeep)
          else
            let inside := (cursor.past 1).skipSpace
            match inside.rest with
            | [] => .error (inside.faultHere .endInArray)
            | ']' :: _ => .ok (inside.past 1)
            | _ => items bound (levels - 1) inside
      | '\x7b' :: _ =>
          if levels = 0 then .error (cursor.faultNext .tooDeep)
          else
            let inside := (cursor.past 1).skipSpace
            match inside.rest with
            | '\x7d' :: _ => .ok (inside.past 1)
            | _ => members bound (levels - 1) true inside
      | character :: _ =>
          if beginsNumber character then (number cursor).map Prod.snd
          else .error (cursor.faultNext .expectedValue)

def items : (bound levels : Nat) → Cursor → Except LocatedFault Cursor
  | 0, _, cursor => .ok cursor
  | bound + 1, levels, cursor => do
      let after := (← value bound levels cursor).skipSpace
      match after.rest with
      | [] => throw (after.faultHere .endInArray)
      | ']' :: _ => return after.past 1
      | ',' :: _ =>
          let next := (after.past 1).skipSpace
          match next.rest with
          | [] => throw (next.faultHere .endInValue)
          | ']' :: _ => throw (next.faultNext .trailingComma)
          | _ => items bound levels next
      | _ => throw (after.faultNext .expectedItemEnd)

/-- Go through one member or more, up to the closing brace. The first key decides
whether the object stands for the value in a text. -/
def members : (bound levels : Nat) → (isFirst : Bool) → Cursor → Except LocatedFault Cursor
  | 0, _, _, cursor => .ok cursor
  | bound + 1, levels, isFirst, cursor => do
      let (key, cursor) ← stringText (← keyStart isFirst cursor)
      let cursor ← colon cursor.skipSpace
      if isFirst && key = embeddedKey then
        let start := cursor.skipSpace
        if start.rest.head? = some '"' then
          let (text, after) ← stringText (start.past 1)
          whole bound (Cursor.ofText text)
          embeddingEnd after.skipSpace
        else
          throw (notEmbedded start)
      else
        let after := (← value bound levels cursor).skipSpace
        match after.rest with
        | [] => throw (after.faultHere .endInObject)
        | '\x7d' :: _ => return after.past 1
        | ',' :: _ => members bound levels false (after.past 1).skipSpace
        | _ => throw (after.faultNext .expectedMemberEnd)

def whole : (bound : Nat) → Cursor → Except LocatedFault Unit
  | 0, _ => .ok ()
  | bound + 1, cursor => do
      let after := (← value bound nestingLimit cursor).skipSpace
      if after.rest.isEmpty then return () else throw (after.faultNext .trailingText)

end

end SharedEditing.Written.Diagnosis

namespace SharedEditing.Json

/-- The first thing that keeps a text from standing for a value. An embedded text is
shorter than the text it stands in, so twice the length bounds all that is read. -/
def fault? (text : String) : Option LocatedFault :=
  match Written.Diagnosis.whole (2 * text.length + 2) (.ofText text) with
  | .ok () => none
  | .error fault => some fault

end SharedEditing.Json
