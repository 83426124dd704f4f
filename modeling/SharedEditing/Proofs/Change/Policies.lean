import Mathlib.Data.String.Basic
import SharedEditing.Change.Audience

/-! # The first policy decides

The shape of a policy is said once more, of JSON values and not of what is read: which
entries are policies, and which policy an entry is. The first entry of a list that is a
policy for a permission says alone who has it. -/

namespace SharedEditing

/-- The values that stand under a key. Members that are sorted have one at most. -/
def Members.under (members : Members) (key : String) : List Json :=
  (members.filter fun member => member.1 == key).map Prod.snd

/-! ## Values that are read -/

namespace Written

theorem keyed?_ofMembers (members : Members) :
    keyed? (ofMembers members) = some (members.map fun member => (member.1, ofValue member.2)) := by
  induction members with
  | nil => rfl
  | cons member rest induction =>
      obtain ⟨key, value⟩ := member
      simp only [ofMembers, keyed?, induction, List.map_cons]

theorem occurrences_ofValue (members : Members) (key : String) :
    occurrences (members.map fun member => (member.1, ofValue member.2)) key =
      (members.under key).map ofValue := by
  unfold occurrences Members.under
  rw [List.filter_map, List.map_map, List.map_map]
  rfl

theorem string?_ofValue_eq_some_iff {value : Json} {text : String} :
    (ofValue value).string? = some text ↔ value = .string text := by
  cases value <;> simp [ofValue, string?]

theorem mapM_string?_ofItems_eq_some_iff {items : List Json} {texts : List String} :
    (ofItems items).mapM string? = some texts ↔ items = texts.map .string := by
  induction items generalizing texts with
  | nil => cases texts <;> simp [ofItems]
  | cons item rest induction =>
      simp only [ofItems, List.mapM_cons, Option.bind_eq_bind, Option.pure_def,
        Option.bind_eq_some_iff, string?_ofValue_eq_some_iff, induction]
      constructor
      · rintro ⟨text, rfl, more, rfl, same⟩
        cases same
        rfl
      · intro same
        cases texts with
        | nil => cases same
        | cons text more =>
            cases same
            exact ⟨text, rfl, more, rfl, rfl⟩

theorem strings?_ofValue_eq_some_iff {value : Json} {texts : List String} :
    list? string? (ofValue value) = some texts ↔ value = .array (texts.map .string) := by
  cases value with
  | array items => simp [ofValue, list?, mapM_string?_ofItems_eq_some_iff]
  | _ => simp [ofValue, list?]

end Written

namespace Policy

open Written

/-- An entry of a policy list that is shaped like a policy: an object that names a permission
and may list users, among any other members, or an array of the two. -/
inductive IsEntry : Policy → Json → Prop where
  | object {members : Members} {permission : String} {users : List String}
      (names : members.under "permission" = [.string permission])
      (lists : members.under "users" = [.array (users.map .string)]) :
      IsEntry ⟨permission, users⟩ (.object members)
  | objectForNobody {members : Members} {permission : String}
      (names : members.under "permission" = [.string permission])
      (absent : members.under "users" = []) :
      IsEntry ⟨permission, []⟩ (.object members)
  | array {permission : String} {users : List String} :
      IsEntry ⟨permission, users⟩ (.array [.string permission, .array (users.map .string)])
  | arrayForNobody {permission : String} : IsEntry ⟨permission, []⟩ (.array [.string permission])

variable {policy : Policy} {entry : Json} {permission : String} {users : List String}

theorem isEntry_object_iff {members : Members} :
    IsEntry ⟨permission, users⟩ (.object members) ↔
      members.under "permission" = [.string permission] ∧
        (members.under "users" = [.array (users.map .string)] ∨
          members.under "users" = [] ∧ users = []) := by
  constructor
  · intro entry
    cases entry with
    | object names lists => exact ⟨names, .inl lists⟩
    | objectForNobody names absent => exact ⟨names, .inr ⟨absent, rfl⟩⟩
  · rintro ⟨names, lists | ⟨absent, rfl⟩⟩
    · exact .object names lists
    · exact .objectForNobody names absent

theorem isEntry_array_iff {items : List Json} :
    IsEntry ⟨permission, users⟩ (.array items) ↔
      items = [.string permission, .array (users.map .string)] ∨
        items = [.string permission] ∧ users = [] := by
  constructor
  · intro entry
    cases entry with
    | array => exact .inl rfl
    | arrayForNobody => exact .inr ⟨rfl, rfl⟩
  · rintro (rfl | ⟨rfl, rfl⟩)
    · exact .array
    · exact .arrayForNobody

theorem read?_eq_some_iff {written : Written} :
    read? written = some ⟨permission, users⟩ ↔
      ∃ name listed, written.fields? [⟨"permission", .refused⟩, ⟨"users", .default⟩] =
          some [some name, listed] ∧
        name.string? = some permission ∧ orDefault? [] (list? string?) listed = some users := by
  unfold read?
  constructor
  · intro read
    split at read
    · rename_i name listed fields
      simp only [Option.bind_eq_bind, Option.pure_def, Option.bind_eq_some_iff] at read
      rcases read with ⟨_, named, _, given, same⟩
      cases same
      exact ⟨name, listed, fields, named, given⟩
    · cases read
  · rintro ⟨name, listed, fields, named, given⟩
    simp [fields, named, given]

theorem member?_permission {members : Members} {name : Written} :
    member? (members.map fun member => (member.1, ofValue member.2)) ⟨"permission", .refused⟩ =
        some (some name) ↔
      ∃ value, members.under "permission" = [value] ∧ name = ofValue value := by
  unfold member?
  rw [occurrences_ofValue]
  match members.under "permission" with
  | [] => simp
  | [value] => simp [eq_comm]
  | first :: second :: more => simp

theorem member?_users {members : Members} :
    (∃ listed, member? (members.map fun member => (member.1, ofValue member.2))
        ⟨"users", .default⟩ = some listed ∧
          orDefault? [] (list? string?) listed = some users) ↔
      members.under "users" = [.array (users.map .string)] ∨
        members.under "users" = [] ∧ users = [] := by
  unfold member?
  rw [occurrences_ofValue]
  match members.under "users" with
  | [] => simp [orDefault?, eq_comm]
  | [value] => simp [orDefault?, strings?_ofValue_eq_some_iff]
  | first :: second :: more => simp

theorem fields?_object {members : Members} {name : Written} {listed : Option Written} :
    (ofValue (.object members)).fields? [⟨"permission", .refused⟩, ⟨"users", .default⟩] =
        some [some name, listed] ↔
      member? (members.map fun member => (member.1, ofValue member.2)) ⟨"permission", .refused⟩ =
          some (some name) ∧
        member? (members.map fun member => (member.1, ofValue member.2)) ⟨"users", .default⟩ =
          some listed := by
  simp only [ofValue, fields?, keyed?_ofMembers, Option.bind_some, List.mapM_cons, List.mapM_nil,
    Option.bind_eq_bind, Option.pure_def, Option.bind_eq_some_iff]
  constructor
  · rintro ⟨_, first, _, ⟨_, second, tail⟩, both⟩
    cases tail
    cases both
    exact ⟨first, second⟩
  · rintro ⟨first, second⟩
    exact ⟨_, first, _, ⟨_, second, rfl⟩, rfl⟩

theorem read?_ofValue_eq_some_iff : read? (ofValue entry) = some policy ↔ policy.IsEntry entry := by
  obtain ⟨permission, users⟩ := policy
  rw [read?_eq_some_iff]
  cases entry with
  | object members =>
      rw [isEntry_object_iff, ← member?_users]
      simp only [fields?_object, member?_permission]
      constructor
      · rintro ⟨_, listed, ⟨⟨value, stands, rfl⟩, found⟩, named, given⟩
        rw [string?_ofValue_eq_some_iff] at named
        exact ⟨named ▸ stands, listed, found, given⟩
      · rintro ⟨stands, listed, found, given⟩
        exact ⟨_, listed, ⟨⟨_, stands, rfl⟩, found⟩, rfl, given⟩
  | array items =>
      rw [isEntry_array_iff]
      match items with
      | [] => simp [ofValue, ofItems, fields?, places?]
      | [name] =>
          simp [ofValue, ofItems, fields?, places?, orDefault?, string?_ofValue_eq_some_iff]
      | [name, listed] =>
          simp [ofValue, ofItems, fields?, places?, orDefault?, string?_ofValue_eq_some_iff,
            strings?_ofValue_eq_some_iff]
      | first :: second :: third :: more => simp [ofValue, ofItems, fields?, places?]
  | _ =>
      constructor
      · rintro ⟨_, _, fields, _⟩
        cases fields
      · intro entry
        cases entry

instance : Decidable (policy.IsEntry entry) :=
  decidable_of_iff _ read?_ofValue_eq_some_iff

end Policy

/-! ## Who has a permission -/

namespace Audience

structure IsSetOf (audience : Audience) (emails : List String) : Prop where
  same : ∀ email, email ∈ audience ↔ email ∈ emails
  sorted : audience.Pairwise (· < ·)

theorem sorted_insert {audience : Audience} (sorted : audience.Pairwise (· < ·))
    (email : String) : (audience.insert email).Pairwise (· < ·) := by
  induction audience with
  | nil => exact List.pairwise_singleton _ _
  | cons other rest induction =>
      rcases List.pairwise_cons.mp sorted with ⟨least, later⟩
      simp only [insert]
      split
      · exact sorted
      · rename_i different
        split
        · rename_i before
          refine List.pairwise_cons.mpr ⟨fun member present => ?_, sorted⟩
          rcases List.mem_cons.mp present with rfl | present
          · exact before
          · exact lt_trans before (least member present)
        · rename_i behind
          have after : other < email := lt_of_le_of_ne (not_lt.mp behind) (Ne.symm different)
          refine List.pairwise_cons.mpr ⟨fun member present => ?_, induction later⟩
          rcases mem_insert.mp present with rfl | present
          · exact after
          · exact least member present

theorem isSetOf_ofList (emails : List String) : (ofList emails).IsSetOf emails where
  same _ := mem_ofList
  sorted := by
    have grown (audience : Audience) (sorted : audience.Pairwise (· < ·)) :
        (emails.foldl insert audience).Pairwise (· < ·) := by
      induction emails generalizing audience with
      | nil => exact sorted
      | cons first rest induction => exact induction _ (sorted_insert sorted first)
    exact grown [] List.Pairwise.nil

end Audience

namespace Policy

open Written

variable {policy : Policy} {entry : Json} {permission : String} {entries before after : List Json}

def NoneFor (permission : String) (entries : List Json) : Prop :=
  ∀ entry ∈ entries, ∀ policy : Policy, policy.IsEntry entry → policy.permission ≠ permission

theorem listOf_append (before after : List Json) :
    listOf (some (.array (before ++ after))) =
      listOf (some (.array before)) ++ listOf (some (.array after)) :=
  List.filterMap_append

theorem mem_listOf_iff : policy ∈ listOf (some (.array entries)) ↔
    ∃ entry ∈ entries, policy.IsEntry entry := by
  simp only [listOf, List.mem_filterMap, read?_ofValue_eq_some_iff]

theorem listOf_cons (entered : policy.IsEntry entry) :
    listOf (some (.array (entry :: after))) = policy :: listOf (some (.array after)) := by
  simp only [listOf, List.filterMap_cons, read?_ofValue_eq_some_iff.mpr entered]

theorem listOf_cons_of_misshapen (misshapen : ∀ policy : Policy, ¬ policy.IsEntry entry) :
    listOf (some (.array (entry :: after))) = listOf (some (.array after)) := by
  cases read : read? (ofValue entry) with
  | none => simp only [listOf, List.filterMap_cons, read]
  | some policy => exact absurd (read?_ofValue_eq_some_iff.mp read) (misshapen policy)

theorem noneFor_iff : NoneFor permission entries ↔
    ∀ policy ∈ listOf (some (.array entries)), policy.permission ≠ permission := by
  simp only [NoneFor, mem_listOf_iff]
  constructor
  · rintro nobody policy ⟨entry, member, entered⟩
    exact nobody entry member policy entered
  · intro nobody entry member policy entered
    exact nobody policy ⟨entry, member, entered⟩

instance : Decidable (NoneFor permission entries) := decidable_of_iff _ noneFor_iff.symm

theorem find?_listOf_of_noneFor (nobody : NoneFor permission entries) :
    (listOf (some (.array entries))).find? (fun policy => policy.permission == permission) =
      none := by
  rw [List.find?_eq_none]
  intro policy listed
  simpa using noneFor_iff.mp nobody policy listed

theorem entitled_of_first (first : NoneFor permission before) (entered : policy.IsEntry entry)
    (granted : policy.permission = permission) :
    Audience.entitled (listOf (some (.array (before ++ entry :: after)))) permission =
      Audience.ofList policy.users := by
  have found : (listOf (some (.array (before ++ entry :: after)))).find?
      (fun policy => policy.permission == permission) = some policy := by
    rw [listOf_append, List.find?_append, find?_listOf_of_noneFor first, Option.none_or,
      listOf_cons entered]
    exact List.find?_cons_of_pos (beq_iff_eq.mpr granted)
  rw [Audience.entitled, found]

/-- The people with a permission are the users of the first entry that is a policy for it,
whatever comes later, and nobody if there is none. An entry that is shaped otherwise is as good
as absent. -/
theorem first_entry_decides (value : Option Json) (permission : String) :
    (∀ before entry after (policy : Policy), value = some (.array (before ++ entry :: after)) →
      NoneFor permission before → policy.IsEntry entry → policy.permission = permission →
        (Audience.entitled (listOf value) permission).IsSetOf policy.users) ∧
    ((∀ entries, value = some (.array entries) → NoneFor permission entries) →
      Audience.entitled (listOf value) permission = []) ∧
    ∀ before entry after, value = some (.array (before ++ entry :: after)) →
      (∀ policy : Policy, ¬ policy.IsEntry entry) →
        Audience.entitled (listOf value) permission =
          Audience.entitled (listOf (some (.array (before ++ after)))) permission := by
  refine ⟨?first, ?none, ?misshapen⟩
  case first =>
    rintro before entry after policy rfl first entered granted
    rw [entitled_of_first first entered granted]
    exact Audience.isSetOf_ofList policy.users
  case none =>
    intro nobody
    cases value with
    | none => rfl
    | some value =>
        cases value with
        | array entries =>
            rw [Audience.entitled, find?_listOf_of_noneFor (nobody entries rfl)]
        | _ => rfl
  case misshapen =>
    rintro before entry after rfl misshapen
    rw [listOf_append, listOf_cons_of_misshapen misshapen, ← listOf_append]

/-- Entries of other shapes stand in front, and one that lets the same people in stands behind.
A policy without users lets nobody in. -/
theorem first_entry_decides_of_misshapen :
    let everybody : Json := .array [.string "ann@x", .string "bob@x", .string "eve@x"]
    let before : List Json :=
      [.object [("permission", .string "read:comments"), ("users", .null)],
        .object [("permission", .string "read:comments"),
          ("users", .array [.string "eve@x", .number (.integer 1)])],
        .array [.string "read:comments", everybody, .null], .string "read:comments",
        .object [("users", everybody)], .array [.string "manage:comments", everybody]]
    let entry : Json := .object
      [("note", .null), ("permission", .string "read:comments"),
        ("users", .array [.string "bob@x", .string "ann@x", .string "bob@x"])]
    let after : List Json :=
      [.object [("permission", .string "read:comments"), ("users", everybody)]]
    let entitled (entry : Json) := Audience.entitled
      (listOf (some (.array (before ++ entry :: after)))) "read:comments"
    NoneFor "read:comments" before ∧
      IsEntry ⟨"read:comments", ["bob@x", "ann@x", "bob@x"]⟩ entry ∧
      (entitled entry).IsSetOf ["bob@x", "ann@x", "bob@x"] ∧ entitled entry = ["ann@x", "bob@x"] ∧
      (entitled (.array [.string "read:comments"])).IsSetOf [] := by
  intro everybody before entry after entitled
  have first : NoneFor "read:comments" before := by decide +kernel
  have entered : IsEntry ⟨"read:comments", ["bob@x", "ann@x", "bob@x"]⟩ entry := by decide +kernel
  have decided := fun entry => (first_entry_decides
    (some (.array (before ++ entry :: after))) "read:comments").1 before entry after
  exact ⟨first, entered, decided entry _ rfl first entered rfl, by decide +kernel,
    decided _ _ rfl first .arrayForNobody rfl⟩

end Policy

end SharedEditing
