import SharedEditing.Json.Numeral
import SharedEditing.Json.Written

/-! # Reading JSON text

Each reader takes the characters that remain and returns what it read with the
characters after it. A string is read in two steps: first its characters and
escapes, then the escapes of surrogate pairs become characters. -/

namespace SharedEditing.Written.Reader

def isSpace (character : Char) : Bool :=
  character == ' ' || character == '\t' || character == '\n' || character == '\r'

def skipSpace (text : List Char) : List Char := text.dropWhile isSpace

/-! ## Strings -/

inductive StringPart where
  | character (character : Char)
  | unit (code : Nat)
  deriving DecidableEq, Repr

def hexDigit? (character : Char) : Option Nat :=
  if '0' ≤ character ∧ character ≤ '9' then some (character.toNat - '0'.toNat)
  else if 'a' ≤ character ∧ character ≤ 'f' then some (character.toNat - 'a'.toNat + 10)
  else if 'A' ≤ character ∧ character ≤ 'F' then some (character.toNat - 'A'.toNat + 10)
  else none

def unit? (first second third fourth : Char) : Option Nat := do
  let first ← hexDigit? first
  let second ← hexDigit? second
  let third ← hexDigit? third
  let fourth ← hexDigit? fourth
  return ((first * 16 + second) * 16 + third) * 16 + fourth

def simpleEscape? : Char → Option Char
  | '"' => some '"'
  | '\\' => some '\\'
  | '/' => some '/'
  | 'b' => some '\x08'
  | 'f' => some '\x0c'
  | 'n' => some '\n'
  | 'r' => some '\r'
  | 't' => some '\t'
  | _ => none

/-- The parts of a string up to its closing quote, and what follows the quote.
Control characters below U+0020 may not stand in a string. -/
def parts? : List Char → Option (List StringPart × List Char)
  | [] => none
  | '"' :: rest => some ([], rest)
  | '\\' :: 'u' :: first :: second :: third :: fourth :: rest => do
      let code ← unit? first second third fourth
      let (parts, rest) ← parts? rest
      return (.unit code :: parts, rest)
  | '\\' :: escaped :: rest => do
      let character ← simpleEscape? escaped
      let (parts, rest) ← parts? rest
      return (.character character :: parts, rest)
  | character :: rest =>
      if character = '\\' ∨ character.toNat < 0x20 then none
      else do
        let (parts, rest) ← parts? rest
        return (.character character :: parts, rest)

def isHighSurrogate (code : Nat) : Bool := 0xD800 ≤ code && code < 0xDC00

def isLowSurrogate (code : Nat) : Bool := 0xDC00 ≤ code && code < 0xE000

/-- The characters that parts stand for. A surrogate counts only as the first or
the second half of a pair. -/
def characters? : List StringPart → Option (List Char)
  | [] => some []
  | .character character :: rest => (characters? rest).map (character :: ·)
  | .unit high :: rest =>
      if isHighSurrogate high then
        match rest with
        | .unit low :: rest =>
            if isLowSurrogate low then
              let code := 0x10000 + (high - 0xD800) * 0x400 + (low - 0xDC00)
              (characters? rest).map (Char.ofNat code :: ·)
            else
              none
        | _ => none
      else if isLowSurrogate high then
        none
      else
        (characters? rest).map (Char.ofNat high :: ·)

def string? (text : List Char) : Option (Option String × List Char) := do
  let (parts, rest) ← parts? text
  return ((characters? parts).map String.ofList, rest)

/-! ## Numbers -/

def digitValue (character : Char) : Nat := character.toNat - '0'.toNat

def digits (text : List Char) : List Nat × List Char :=
  ((text.takeWhile Char.isDigit).map digitValue, text.dropWhile Char.isDigit)

def someDigits? (text : List Char) : Option (List Nat × List Char) :=
  match digits text with
  | ([], _) => none
  | read => some read

def whole? : List Char → Option (List Nat × List Char)
  | '0' :: rest => some ([0], rest)
  | text => someDigits? text

def fraction? : List Char → Option (Option (List Nat) × List Char)
  | '.' :: rest => do
      let (read, rest) ← someDigits? rest
      return (some read, rest)
  | text => some (none, text)

def exponentSign : List Char → Bool × List Char
  | '-' :: rest => (true, rest)
  | '+' :: rest => (false, rest)
  | text => (false, text)

def exponent? : List Char → Option (Option (Bool × List Nat) × List Char)
  | mark :: rest =>
      if mark = 'e' ∨ mark = 'E' then do
        let (negative, rest) := exponentSign rest
        let (read, rest) ← someDigits? rest
        return (some (negative, read), rest)
      else
        some (none, mark :: rest)
  | [] => some (none, [])

def sign : List Char → Bool × List Char
  | '-' :: rest => (true, rest)
  | text => (false, text)

def numeral? (text : List Char) : Option (Numeral × List Char) := do
  let (negative, text) := sign text
  let (whole, text) ← whole? text
  let (fraction, text) ← fraction? text
  let (exponent, text) ← exponent? text
  return (⟨negative, whole, fraction, exponent⟩, text)

/-! ## Values

The first argument bounds the recursion. Every call but the first follows a
character that was read, so the length of the text suffices. -/

mutual

def value? : (bound : Nat) → List Char → Option (Written × List Char)
  | 0, _ => none
  | bound + 1, text =>
      match skipSpace text with
      | 'n' :: 'u' :: 'l' :: 'l' :: rest => some (.null, rest)
      | 't' :: 'r' :: 'u' :: 'e' :: rest => some (.bool true, rest)
      | 'f' :: 'a' :: 'l' :: 's' :: 'e' :: rest => some (.bool false, rest)
      | '"' :: rest => (string? rest).map fun read => (.string read.1, read.2)
      | '[' :: rest =>
          match skipSpace rest with
          | ']' :: rest => some (.array [], rest)
          | rest => (items? bound rest).map fun read => (.array read.1, read.2)
      | '\x7b' :: rest =>
          match skipSpace rest with
          | '\x7d' :: rest => some (.object [], rest)
          | rest => (members? bound rest).map fun read => (.object read.1, read.2)
      | rest => (numeral? rest).map fun read => (.number read.1.number?, read.2)

def items? : (bound : Nat) → List Char → Option (List Written × List Char)
  | 0, _ => none
  | bound + 1, text =>
      match value? bound text with
      | none => none
      | some (item, rest) =>
          match skipSpace rest with
          | ']' :: rest => some ([item], rest)
          | ',' :: rest => (items? bound rest).map fun read => (item :: read.1, read.2)
          | _ => none

def members? : (bound : Nat) → List Char →
    Option (List (Option String × Written) × List Char)
  | 0, _ => none
  | bound + 1, text =>
      match skipSpace text with
      | '"' :: rest =>
          match string? rest with
          | some (key, rest) =>
              match skipSpace rest with
              | ':' :: rest =>
                  match value? bound rest with
                  | none => none
                  | some (value, rest) =>
                      match skipSpace rest with
                      | '\x7d' :: rest => some ([(key, value)], rest)
                      | ',' :: rest =>
                          (members? bound rest).map fun read => ((key, value) :: read.1, read.2)
                      | _ => none
              | _ => none
          | none => none
      | _ => none

end

end Reader

def ofText? (text : String) : Option Written :=
  let characters := text.toList
  match Reader.value? (characters.length + 1) characters with
  | some (written, rest) => if (Reader.skipSpace rest).isEmpty then some written else none
  | none => none

/-- How many arrays and objects of a text may be open at once where values are read. -/
def nestingLimit : Nat := 127

end SharedEditing.Written
