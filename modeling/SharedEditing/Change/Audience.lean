import SharedEditing.Json.Shape

/-! # Who may see a document

A document carries its own list of policies. The first policy for a permission
decides who has it; later policies for the same permission count for nothing,
and neither do entries that are not shaped like a policy. -/

namespace SharedEditing

structure Policy where
  permission : String
  users : List String := []
  deriving DecidableEq, Repr

namespace Policy

def read? (written : Written) : Option Policy :=
  match written.fields? [⟨"permission", .refused⟩, ⟨"users", .default⟩] with
  | some [some permission, users] => do
      let permission ← permission.string?
      let users ← Written.orDefault? [] (Written.list? Written.string?) users
      return ⟨permission, users⟩
  | _ => none

def json (policy : Policy) : Json :=
  .object
    [("permission", .string policy.permission),
      ("users", .array (policy.users.map Json.string))]

/-- The entries of a policy list that are shaped like a policy. What is not a
list has none. -/
def listOf : Option Json → List Policy
  | some (.array entries) => entries.filterMap fun entry => read? (Written.ofValue entry)
  | _ => []

end Policy

abbrev Audience := List String

namespace Audience

def insert : Audience → String → Audience
  | [], email => [email]
  | other :: rest, email =>
      if email = other then other :: rest
      else if email < other then email :: other :: rest
      else other :: insert rest email

def ofList (emails : List String) : Audience :=
  emails.foldl insert []

/-- The users of the first policy for the permission. -/
def entitled (policies : List Policy) (permission : String) : Audience :=
  match policies.find? fun policy => policy.permission == permission with
  | some policy => ofList policy.users
  | none => []

theorem mem_insert {audience : Audience} {email other : String} :
    other ∈ audience.insert email ↔ other = email ∨ other ∈ audience := by
  induction audience with
  | nil => simp [insert]
  | cons first rest induction =>
      simp only [insert]
      split
      · rename_i same
        subst same
        simp
      · split
        · simp
        · simp only [List.mem_cons, induction]
          constructor
          · intro member
            rcases member with first | email | rest
            · exact .inr (.inl first)
            · exact .inl email
            · exact .inr (.inr rest)
          · intro member
            rcases member with email | first | rest
            · exact .inr (.inl email)
            · exact .inl first
            · exact .inr (.inr rest)

theorem mem_ofList {emails : List String} {email : String} :
    email ∈ ofList emails ↔ email ∈ emails := by
  suffices general : ∀ audience : Audience,
      email ∈ emails.foldl insert audience ↔ email ∈ audience ∨ email ∈ emails by
    simpa [ofList] using general []
  induction emails with
  | nil => simp
  | cons first rest induction =>
      intro audience
      rw [List.foldl_cons, induction, mem_insert, List.mem_cons]
      constructor
      · intro member
        rcases member with (first | kept) | rest
        · exact .inr (.inl first)
        · exact .inl kept
        · exact .inr (.inr rest)
      · intro member
        rcases member with kept | first | rest
        · exact .inl (.inr kept)
        · exact .inl (.inl first)
        · exact .inr rest

end Audience

end SharedEditing
