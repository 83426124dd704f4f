import SharedEditing.Json.Basic
import SharedEditing.Decimal.Layout

/-! # Writing JSON text

No space is written. Members are written in the order they have. In a string
only the quote, the backslash and the control characters below U+0020 are
escaped; every other character stands for itself. -/

namespace SharedEditing.Json

open Decimal

/-- Powers of ten from -5 to 15 are written positionally, others as `1.5e-7` or `1e+16`. -/
def decimalLayout : Layout where
  leastPlain := -5
  greatestPlain := 15
  exponentMark := 'e'
  signPositiveExponent := true

def numberText : Number → List Char
  | .integer value => (toString value).toList
  | .decimal value => (decimalLayout.write value).toList

def hexDigit (digit : Nat) : Char :=
  if digit < 10 then Char.ofNat ('0'.toNat + digit) else Char.ofNat ('a'.toNat + digit - 10)

def escape (character : Char) : List Char :=
  if character = '"' then ['\\', '"']
  else if character = '\\' then ['\\', '\\']
  else if character = '\x08' then ['\\', 'b']
  else if character = '\t' then ['\\', 't']
  else if character = '\n' then ['\\', 'n']
  else if character = '\x0c' then ['\\', 'f']
  else if character = '\r' then ['\\', 'r']
  else if character.toNat < 0x20 then
    ['\\', 'u', '0', '0', hexDigit (character.toNat / 16), hexDigit (character.toNat % 16)]
  else [character]

def quote (text : String) : List Char :=
  '"' :: (text.toList.flatMap escape ++ ['"'])

mutual

def render : Json → List Char
  | null => ['n', 'u', 'l', 'l']
  | bool true => ['t', 'r', 'u', 'e']
  | bool false => ['f', 'a', 'l', 's', 'e']
  | number value => numberText value
  | string text => quote text
  | array items => '[' :: (renderItems items ++ [']'])
  | object members => '\x7b' :: (renderMembers members ++ ['\x7d'])

def renderItems : List Json → List Char
  | [] => []
  | [item] => render item
  | item :: rest => render item ++ ',' :: renderItems rest

def renderMembers : List (String × Json) → List Char
  | [] => []
  | [(key, value)] => quote key ++ ':' :: render value
  | (key, value) :: rest => quote key ++ ':' :: (render value ++ ',' :: renderMembers rest)

end

def text (value : Json) : String := String.ofList value.render

end SharedEditing.Json
