import SharedEditing.Json.Written

/-! # Reading records

A record with declared fields is written as an object or as an array. In an
object the fields stand in any order, fields that are not declared are passed
over, and a declared field may stand once. The keys of that object are all read,
while what is passed over is not. In an array the fields stand in
declared order, and only fields with a default may be left out, from the end. -/

namespace SharedEditing.Written

inductive Absence where
  | refused
  /-- An absent member is no value. In an array a place must be filled, if only by null. -/
  | noValue
  /-- The field has a default. -/
  | default
  deriving DecidableEq, Repr

structure Field where
  name : String
  absence : Absence := .refused
  deriving Repr

def occurrences {α : Type} (members : List (String × α)) (name : String) : List α :=
  (members.filter fun member => member.1 == name).map Prod.snd

def member? {α : Type} (members : List (String × α)) (field : Field) : Option (Option α) :=
  match occurrences members field.name with
  | [] => if field.absence = .refused then none else some none
  | [value] => some (some value)
  | _ => none

def places? {α : Type} : List Field → List α → Option (List (Option α))
  | [], [] => some []
  | [], _ :: _ => none
  | field :: fields, [] =>
      if field.absence = .default then (places? fields []).map (none :: ·) else none
  | _ :: fields, item :: rest => (places? fields rest).map (some item :: ·)

/-- One entry per declared field, `none` where the field may be and is absent. -/
def fields? (declared : List Field) : Written → Option (List (Option Written))
  | object members => (keyed? members).bind fun members => declared.mapM (member? members)
  | array items => places? declared items
  | _ => none

/-- A field that may be absent but, when present, must be readable. -/
def orDefault? {α : Type} (fallback : α) (read : Written → Option α) :
    Option Written → Option α
  | none => some fallback
  | some written => read written

/-- One of several names, as a string or as an object with null under the name. -/
def choice? : Written → Option String
  | string text => text
  | object [(name, null)] => name
  | _ => none

def bool? : Written → Option Bool
  | bool value => some value
  | _ => none

/-- A natural number below a bound. A binary64 number is never one. -/
def natBelow? (bound : Nat) : Written → Option Nat
  | number (some (.integer value)) =>
      if 0 ≤ value ∧ value.toNat < bound then some value.toNat else none
  | _ => none

end SharedEditing.Written
