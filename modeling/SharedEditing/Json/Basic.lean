import SharedEditing.Decimal.Binary64

/-! # JSON values

A value as data: numbers are exact integers or binary64 numbers, and an object
is a list of members. A free-form object has its members sorted by key and each
key once; `Members.insert` and `Members.erase` keep it so. An object that a
message type writes keeps the order in which the type declares its fields. -/

namespace SharedEditing

open Decimal

/-- Integers of 64 bits, signed or unsigned, are exact; other numbers are binary64. -/
inductive Number where
  | integer (value : Int)
  | decimal (value : Binary64)
  deriving DecidableEq, Repr, Inhabited

inductive Json where
  | null
  | bool (value : Bool)
  | number (value : Number)
  | string (text : String)
  | array (items : List Json)
  | object (members : List (String × Json))
  deriving Repr, Inhabited

abbrev Members := List (String × Json)

namespace Members

def get? (members : Members) (key : String) : Option Json :=
  (members.find? fun member => member.1 == key).map Prod.snd

def has (members : Members) (key : String) : Bool :=
  members.any fun member => member.1 == key

/-- Put a member at its place in key order, over any member with the same key. -/
def insert : Members → (key : String) → (value : Json) → Members
  | [], key, value => [(key, value)]
  | (other, present) :: rest, key, value =>
      if key = other then (key, value) :: rest
      else if key < other then (key, value) :: (other, present) :: rest
      else (other, present) :: insert rest key value

def erase (members : Members) (key : String) : Members :=
  members.filter fun member => member.1 != key

def eraseAll (members : Members) (keys : List String) : Members :=
  keys.foldl erase members

/-- Sort members by key. Of members with one key the last stays. -/
def ofList (members : List (String × Json)) : Members :=
  members.foldl (fun sorted member => sorted.insert member.1 member.2) []

def Sorted (members : Members) : Prop :=
  members.Pairwise fun left right => left.1 < right.1

/-! ## What each operation does to a look-up -/

@[simp] theorem get?_nil (key : String) : get? [] key = none := rfl

theorem get?_cons (member : String × Json) (rest : Members) (key : String) :
    get? (member :: rest) key = if member.1 = key then some member.2 else get? rest key := by
  by_cases same : member.1 = key <;> simp [get?, same]

theorem get?_insert (members : Members) (key other : String) (value : Json) :
    get? (insert members key value) other =
      if key = other then some value else get? members other := by
  induction members with
  | nil => simp [insert, get?_cons]
  | cons member rest induction =>
      obtain ⟨present, kept⟩ := member
      simp only [insert]
      split
      · rename_i same
        subst same
        simp only [get?_cons]
        split <;> rfl
      · rename_i different
        split
        · simp only [get?_cons]
        · rw [get?_cons, induction, get?_cons]
          split
          · rename_i found
            simp [← found, different]
          · rfl

theorem get?_erase (members : Members) (key other : String) :
    get? (erase members key) other = if key = other then none else get? members other := by
  induction members with
  | nil => simp [erase]
  | cons member rest induction =>
      unfold erase at induction ⊢
      rw [List.filter_cons]
      by_cases removed : member.1 = key
      · simp only [removed, bne_self_eq_false, Bool.false_eq_true, if_false, induction, get?_cons]
        split <;> rfl
      · simp only [bne_iff_ne, ne_eq, removed, not_false_eq_true, if_true, get?_cons, induction]
        split
        · rename_i found
          subst found
          simp [Ne.symm removed]
        · rfl

end Members

namespace Json

def string? : Json → Option String
  | string text => some text
  | _ => none

def object? : Json → Option Members
  | object members => some members
  | _ => none

def field? (value : Json) (key : String) : Option Json :=
  value.object?.bind (·.get? key)

def ofOption (value : Option Json) : Json := value.getD null

def natural (value : Nat) : Json := number (.integer value)

end Json

end SharedEditing
