/-! # Socket addresses

An address is read from text in full or not at all: four decimal octets without
leading zeros, or eight hexadecimal groups in brackets of which one run of zeros
may be left out and the last two may be written as octets, with a numeric scope
after a percent sign; then a colon and a port. It is written in the canonical
form, in which the longest run of two or more zero groups is left out. -/

namespace SharedEditing

inductive SocketAddress where
  | v4 (octets : List Nat) (port : Nat)
  | v6 (groups : List Nat) (scope : Nat) (port : Nat)
  deriving DecidableEq, Repr

namespace SocketAddress

/-! ## Reading

A reader takes the characters that remain and returns a value and what remains
after it. -/

def digitValue? (radix : Nat) (character : Char) : Option Nat :=
  let value :=
    if '0' ≤ character ∧ character ≤ '9' then some (character.toNat - '0'.toNat)
    else if 'a' ≤ character ∧ character ≤ 'f' then some (character.toNat - 'a'.toNat + 10)
    else if 'A' ≤ character ∧ character ≤ 'F' then some (character.toNat - 'A'.toNat + 10)
    else none
  value.filter (· < radix)

def digits (radix : Nat) : List Char → List Nat × List Char
  | [] => ([], [])
  | character :: rest =>
      match digitValue? radix character with
      | some digit => (digit :: (digits radix rest).1, (digits radix rest).2)
      | none => ([], character :: rest)

/-- A number below a bound, of at most so many digits if that is limited. -/
def number? (radix bound : Nat) (places : Option Nat) (leadingZeros : Bool)
    (text : List Char) : Option (Nat × List Char) :=
  let (read, rest) := digits radix text
  let value := read.foldl (fun value digit => value * radix + digit) 0
  if read.isEmpty then none
  else if places.any (· < read.length) then none
  else if !leadingZeros && read.head? == some 0 && 1 < read.length then none
  else if value < bound then some (value, rest)
  else none

def mark? (mark : Char) : List Char → Option (List Char)
  | character :: rest => if character = mark then some rest else none
  | [] => none

def separated? {α : Type} (separator : Char) (first : Bool)
    (read : List Char → Option (α × List Char)) (text : List Char) : Option (α × List Char) :=
  if first then read text else (mark? separator text).bind read

def octet? : List Char → Option (Nat × List Char) := number? 10 256 (some 3) false

def octets? (text : List Char) : Option (List Nat × List Char) := do
  let (first, text) ← octet? text
  let (second, text) ← separated? '.' false octet? text
  let (third, text) ← separated? '.' false octet? text
  let (fourth, text) ← separated? '.' false octet? text
  return ([first, second, third, fourth], text)

def port? (text : List Char) : Option (Nat × List Char) := do
  let text ← mark? ':' text
  number? 10 (Nat.pow 2 16) none true text

def group? : List Char → Option (Nat × List Char) := number? 16 (Nat.pow 2 16) (some 4) true

def groupsOfOctets : List Nat → List Nat
  | [first, second, third, fourth] => [first * 256 + second, third * 256 + fourth]
  | _ => []

/-- At most `limit` groups, and whether the last two were written as octets. -/
def groups (first : Bool) : (limit : Nat) → List Char → (List Nat × Bool) × List Char
  | 0, text => (([], false), text)
  | limit + 1, text =>
      let embedded := if 0 < limit then separated? ':' first octets? text else none
      match embedded with
      | some (octets, rest) => ((groupsOfOctets octets, true), rest)
      | none =>
          match separated? ':' first group? text with
          | none => (([], false), text)
          | some (group, rest) =>
              let ((more, asOctets), rest) := groups false limit rest
              ((group :: more, asOctets), rest)

/-- Eight groups, or fewer with a double colon in place of those left out. -/
def groups? (text : List Char) : Option (List Nat × List Char) :=
  let ((head, asOctets), rest) := groups true 8 text
  if head.length = 8 then some (head, rest)
  else if asOctets then none
  else do
    let rest ← mark? ':' rest
    let rest ← mark? ':' rest
    let ((tail, _), rest) := groups true (7 - head.length) rest
    return (head ++ List.replicate (8 - head.length - tail.length) 0 ++ tail, rest)

def scope (text : List Char) : Nat × List Char :=
  match (mark? '%' text).bind (number? 10 (Nat.pow 2 32) none true) with
  | some read => read
  | none => (0, text)

def v4? (text : List Char) : Option (SocketAddress × List Char) := do
  let (octets, text) ← octets? text
  let (port, text) ← port? text
  return (v4 octets port, text)

def v6? (text : List Char) : Option (SocketAddress × List Char) := do
  let text ← mark? '[' text
  let (groups, text) ← groups? text
  let (scope, text) := scope text
  let text ← mark? ']' text
  let (port, text) ← port? text
  return (v6 groups scope port, text)

def ofText? (text : String) : Option SocketAddress :=
  match (v4? text.toList).orElse fun _ => v6? text.toList with
  | some (address, []) => some address
  | _ => none

/-! ## Writing -/

def octetsText (octets : List Nat) : String :=
  String.intercalate "." (octets.map toString)

def zerosAtFront (groups : List Nat) : Nat := (groups.takeWhile (· == 0)).length

/-- Where the first of the longest runs of zeros starts, and its length. -/
def longestZeros : (index : Nat) → List Nat → Nat × Nat
  | index, [] => (index, 0)
  | index, group :: rest =>
      let here := zerosAtFront (group :: rest)
      let later := longestZeros (index + 1) rest
      if later.2 ≤ here then (index, here) else later

def groupsHex (groups : List Nat) : String :=
  String.intercalate ":" (groups.map fun group => String.ofList (Nat.toDigits 16 group))

def groupsText (groups : List Nat) : String :=
  match groups with
  | [0, 0, 0, 0, 0, 0xFFFF, high, low] =>
      "::ffff:" ++ octetsText [high / 256, high % 256, low / 256, low % 256]
  | _ =>
      let (start, length) := longestZeros 0 groups
      if length < 2 then groupsHex groups
      else groupsHex (groups.take start) ++ "::" ++ groupsHex (groups.drop (start + length))

def text : SocketAddress → String
  | v4 octets port => octetsText octets ++ ":" ++ toString port
  | v6 groups scope port =>
      let scope := if scope = 0 then "" else "%" ++ toString scope
      "[" ++ groupsText groups ++ scope ++ "]:" ++ toString port

end SocketAddress

end SharedEditing
