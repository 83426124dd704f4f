import SharedEditing.Text.Blank

/-! # Session credentials

The credential is the value of the session cookie that a connection presents
when it opens. Only that cookie is forwarded, never the rest of the jar, and its
value is never shown. -/

namespace SharedEditing.Session

structure Credential where
  value : String
  deriving DecidableEq

namespace Credential

def cookieName : String := "SESSION"

/-- The value that one piece of a cookie header gives: blank characters around
the piece are dropped, the name must be the session cookie's exactly, and the
value must not be empty. -/
def valueOfPiece? (piece : List Char) : Option (List Char) :=
  match Text.splitFirst? '=' (Text.trimList piece) with
  | some (name, value) =>
      if name = cookieName.toList ∧ value ≠ [] then some value else none
  | none => none

def ofHeader? (header : String) : Option Credential :=
  ((Text.piecesList ';' header.toList).findSome? valueOfPiece?).map fun value =>
    ⟨String.ofList value⟩

/-- A header value is readable when it has only tabs and the printable
characters of ASCII. -/
def isReadable (header : String) : Bool :=
  header.toList.all fun character =>
    character == '\t' || (0x20 ≤ character.toNat && character.toNat ≤ 0x7E)

def ofHeaders? (headers : List String) : Option Credential :=
  (headers.filter isReadable).findSome? ofHeader?

/-- The header to forward: one pair. -/
def header (credential : Credential) : String :=
  cookieName ++ "=" ++ credential.value

def redacted (_ : Credential) : String := "SessionCredential([REDACTED])"

end Credential

end SharedEditing.Session
