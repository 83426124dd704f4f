/-! # Finite tables

A table maps finitely many keys to values. Its entries keep the order in which
their keys were first set; what a table means is its look-up, and the laws below
say what each operation does to it. -/

namespace SharedEditing

structure Table (κ : Type u) (α : Type v) where
  entries : List (κ × α) := []
  distinct : (entries.map Prod.fst).Nodup := by simp

namespace Table

variable {κ : Type u} {α : Type v} [DecidableEq κ]

instance [DecidableEq α] : DecidableEq (Table κ α) := fun left right =>
  if equal : left.entries = right.entries then
    isTrue (by cases left; cases right; cases equal; rfl)
  else
    isFalse fun tablesEqual => equal (congrArg entries tablesEqual)

instance : Inhabited (Table κ α) := ⟨{}⟩

/-! ## Operations on entries -/

def lookup (key : κ) : List (κ × α) → Option α
  | [] => none
  | (other, value) :: rest => if other = key then some value else lookup key rest

/-- Replace the value of a key where it stands, or append the key. -/
def put (key : κ) (value : α) : List (κ × α) → List (κ × α)
  | [] => [(key, value)]
  | (other, present) :: rest =>
      if other = key then (key, value) :: rest else (other, present) :: put key value rest

def remove (key : κ) (entries : List (κ × α)) : List (κ × α) :=
  entries.filter fun entry => decide (entry.1 ≠ key)

theorem keys_put (key : κ) (value : α) (entries : List (κ × α)) :
    (put key value entries).map Prod.fst =
      if key ∈ entries.map Prod.fst then entries.map Prod.fst
      else entries.map Prod.fst ++ [key] := by
  induction entries with
  | nil => simp [put]
  | cons entry rest induction =>
      obtain ⟨other, present⟩ := entry
      simp only [put]
      split
      · rename_i same
        subst same
        simp
      · rename_i different
        simp only [List.map_cons, induction, List.mem_cons, Ne.symm different, false_or]
        split <;> simp

theorem nodup_keys_put {key : κ} {value : α} {entries : List (κ × α)}
    (distinct : (entries.map Prod.fst).Nodup) :
    ((put key value entries).map Prod.fst).Nodup := by
  rw [keys_put]
  split
  · exact distinct
  · rename_i fresh
    rw [List.nodup_append]
    refine ⟨distinct, by simp, ?_⟩
    intro present member added isKey
    simp only [List.mem_singleton] at isKey
    subst isKey
    intro equal
    subst equal
    exact fresh member

theorem nodup_keys_remove {key : κ} {entries : List (κ × α)}
    (distinct : (entries.map Prod.fst).Nodup) :
    ((remove key entries).map Prod.fst).Nodup :=
  distinct.sublist (List.Sublist.map _ List.filter_sublist)

theorem lookup_put (key other : κ) (value : α) (entries : List (κ × α)) :
    lookup other (put key value entries) =
      if key = other then some value else lookup other entries := by
  induction entries with
  | nil => simp [put, lookup]
  | cons entry rest induction =>
      obtain ⟨present, kept⟩ := entry
      simp only [put]
      split
      · rename_i same
        subst same
        simp only [lookup]
        split <;> rfl
      · rename_i different
        simp only [lookup, induction]
        split
        · rename_i found
          subst found
          simp [Ne.symm different]
        · rfl

theorem lookup_remove (key other : κ) (entries : List (κ × α)) :
    lookup other (remove key entries) = if key = other then none else lookup other entries := by
  induction entries with
  | nil => simp [remove, lookup]
  | cons entry rest induction =>
      unfold remove at induction ⊢
      obtain ⟨present, kept⟩ := entry
      rw [List.filter_cons]
      by_cases removed : present = key
      · subst removed
        simp only [ne_eq, not_true_eq_false, decide_false, Bool.false_eq_true, if_false,
          induction, lookup]
        split <;> rfl
      · simp only [ne_eq, removed, not_false_eq_true, decide_true, if_true, lookup, induction]
        split
        · rename_i found
          subst found
          simp [Ne.symm removed]
        · rfl

theorem remove_put_self (key : κ) (value : α) (entries : List (κ × α)) :
    remove key (put key value entries) = remove key entries := by
  unfold remove
  induction entries with
  | nil => simp [put]
  | cons entry rest induction =>
      obtain ⟨other, present⟩ := entry
      simp only [put]
      split
      · rename_i same
        simp [same]
      · rename_i different
        simp only [List.filter_cons, induction]

theorem remove_put_of_ne {key other : κ} (different : key ≠ other) (value : α)
    (entries : List (κ × α)) :
    remove other (put key value entries) = put key value (remove other entries) := by
  induction entries with
  | nil => simp [put, remove, different]
  | cons entry rest induction =>
      obtain ⟨present, kept⟩ := entry
      unfold remove at induction ⊢
      simp only [put]
      by_cases same : present = key
      · subst same
        simp [put, different]
      · rw [if_neg same, List.filter_cons, List.filter_cons, induction]
        by_cases removed : present = other
        · simp [removed]
        · simp [put, removed, same]

/-! ## Operations on tables -/

def get? (table : Table κ α) (key : κ) : Option α := lookup key table.entries

def has (table : Table κ α) (key : κ) : Bool := (table.get? key).isSome

def getD (table : Table κ α) (key : κ) (fallback : α) : α := (table.get? key).getD fallback

def set (table : Table κ α) (key : κ) (value : α) : Table κ α where
  entries := put key value table.entries
  distinct := nodup_keys_put table.distinct

def erase (table : Table κ α) (key : κ) : Table κ α where
  entries := remove key table.entries
  distinct := nodup_keys_remove table.distinct

def keys (table : Table κ α) : List κ := table.entries.map Prod.fst

def size (table : Table κ α) : Nat := table.entries.length

def ofList (entries : List (κ × α)) : Table κ α :=
  entries.foldl (fun table entry => table.set entry.1 entry.2) {}

def modify (table : Table κ α) (key : κ) (change : α → α) : Table κ α :=
  match table.get? key with
  | some value => table.set key (change value)
  | none => table

/-! ## Laws -/

@[simp] theorem get?_empty (key : κ) : ({} : Table κ α).get? key = none := rfl

@[grind =] theorem get?_set (table : Table κ α) (key other : κ) (value : α) :
    (table.set key value).get? other = if key = other then some value else table.get? other :=
  lookup_put key other value table.entries

@[grind =] theorem get?_erase (table : Table κ α) (key other : κ) :
    (table.erase key).get? other = if key = other then none else table.get? other :=
  lookup_remove key other table.entries

@[grind =] theorem get?_modify (table : Table κ α) (key other : κ) (change : α → α) :
    (table.modify key change).get? other =
      if key = other then (table.get? other).map change else table.get? other := by
  unfold modify
  by_cases same : key = other
  · subst same
    cases found : table.get? key <;> simp [get?_set, found]
  · cases found : table.get? key <;> simp [get?_set, same]

theorem get?_modify_of_ne (table : Table κ α) {key other : κ} (change : α → α)
    (different : key ≠ other) : (table.modify key change).get? other = table.get? other := by
  rw [get?_modify, if_neg different]

theorem modify_of_get?_eq_none {table : Table κ α} {key : κ} (absent : table.get? key = none)
    (change : α → α) : table.modify key change = table := by
  simp only [modify, absent]

theorem mem_keys {table : Table κ α} {key : κ} : key ∈ table.keys ↔ table.get? key ≠ none := by
  obtain ⟨entries, distinct⟩ := table
  simp only [keys, get?]
  clear distinct
  induction entries with
  | nil => simp [lookup]
  | cons entry rest induction =>
      simp only [List.map_cons, List.mem_cons, lookup, induction]
      by_cases same : entry.1 = key
      · simp [same]
      · simp [same, Ne.symm same]

omit [DecidableEq κ] in
theorem nodup_keys (table : Table κ α) : table.keys.Nodup := table.distinct

omit [DecidableEq κ] in
theorem size_eq_length_keys (table : Table κ α) : table.size = table.keys.length := by
  simp [size, keys]

omit [DecidableEq κ] in
theorem eq_of_entries {left right : Table κ α} (equal : left.entries = right.entries) :
    left = right := by
  cases left
  cases right
  cases equal
  rfl

/-- Setting a key to the value it has changes nothing, not even the order. -/
theorem set_of_get?_eq_some {table : Table κ α} {key : κ} {value : α}
    (present : table.get? key = some value) : table.set key value = table := by
  apply eq_of_entries
  show put key value table.entries = table.entries
  have found : lookup key table.entries = some value := present
  clear present
  generalize table.entries = entries at found ⊢
  induction entries with
  | nil => simp [lookup] at found
  | cons entry rest induction =>
      obtain ⟨other, kept⟩ := entry
      by_cases same : other = key
      · simp only [lookup, same, if_true, Option.some.injEq] at found
        simp [put, same, found]
      · simp only [lookup, same, if_false] at found
        simp only [put, same, if_false, induction found]

theorem modify_of_fixed {table : Table κ α} {key : κ} {change : α → α}
    (fixed : ∀ value, table.get? key = some value → change value = value) :
    table.modify key change = table := by
  unfold modify
  cases found : table.get? key with
  | none => rfl
  | some value =>
      simp only [fixed value found]
      exact set_of_get?_eq_some found

theorem erase_of_get?_eq_none {table : Table κ α} {key : κ} (absent : table.get? key = none) :
    table.erase key = table := by
  apply eq_of_entries
  show remove key table.entries = table.entries
  apply List.filter_eq_self.mpr
  intro entry member
  have different : entry.1 ≠ key := by
    intro equal
    have present : key ∈ table.keys := List.mem_map.mpr ⟨entry, member, equal⟩
    exact mem_keys.mp present absent
  simp [different]

/-! ## A key erased -/

section Erase

variable (table : Table κ α) (key : κ) {other : κ}

theorem erase_set_self (value : α) : (table.set key value).erase key = table.erase key :=
  eq_of_entries (remove_put_self key value table.entries)

theorem erase_set_of_ne (value : α) (different : key ≠ other) :
    (table.set key value).erase other = (table.erase other).set key value :=
  eq_of_entries (remove_put_of_ne different value table.entries)

theorem erase_modify_self (change : α → α) :
    (table.modify key change).erase key = table.erase key := by
  unfold modify
  cases table.get? key with
  | none => rfl
  | some value => exact table.erase_set_self key (change value)

theorem erase_modify (change : α → α) (other : κ) :
    (table.modify key change).erase other = (table.erase other).modify key change := by
  by_cases same : key = other
  · subst same
    have absent : (table.erase key).get? key = none := by rw [get?_erase, if_pos rfl]
    rw [erase_modify_self, modify_of_get?_eq_none absent]
  · have kept : (table.erase other).get? key = table.get? key := by
      rw [get?_erase, if_neg (Ne.symm same)]
    unfold modify
    rw [kept]
    cases table.get? key with
    | none => rfl
    | some value => exact table.erase_set_of_ne key (change value) same

theorem erase_comm (other : κ) : (table.erase key).erase other = (table.erase other).erase key := by
  apply eq_of_entries
  simp only [erase, remove, List.filter_filter, Bool.and_comm]

theorem erase_erase_self : (table.erase key).erase key = table.erase key := by
  apply eq_of_entries
  simp only [erase, remove, List.filter_filter, Bool.and_self]

end Erase

end Table

end SharedEditing
