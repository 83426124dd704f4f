import SharedEditing.Text.Blank
import SharedEditing.Json.Buffered

/-! # Editor identities

An identity is what is known about the person behind a connection: a display
name and an email address. The email address is the key; two identities with one
email are the same person. -/

namespace SharedEditing

structure Identity where
  name : String
  email : String
  deriving DecidableEq, Repr

namespace Identity

/-- The identity for an email address. Without a display name, or with a blank
one, the email address is shown instead. -/
def ofEmail (email : String) (displayName : Option String) : Identity :=
  match displayName with
  | some name => if Text.isAllBlank name then ⟨email, email⟩ else ⟨name, email⟩
  | none => ⟨email, email⟩

def json (identity : Identity) : Json :=
  .object [("name", .string identity.name), ("email", .string identity.email)]

def read? (written : Written) : Option Identity :=
  match written.fields? [⟨"name", .refused⟩, ⟨"email", .refused⟩] with
  | some [some name, some email] => do
      let name ← name.string?
      let email ← email.string?
      return ⟨name, email⟩
  | _ => none

def ofBuffered? (value : Buffered) : Option Identity :=
  match value.fields? [⟨"name", .refused⟩, ⟨"email", .refused⟩] with
  | some [some name, some email] => do
      let name ← name.string?
      let email ← email.string?
      return ⟨name, email⟩
  | _ => none

end Identity

end SharedEditing
