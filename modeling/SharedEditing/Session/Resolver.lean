import SharedEditing.Identity
import SharedEditing.Json.Reader
import SharedEditing.Session.Credential
import SharedEditing.Settings.Validation

/-! # From a credential to an identity

The session service is asked, with the session cookie alone, whose session it
is. Whatever goes wrong on the way leaves the person unknown. -/

namespace SharedEditing.Session

structure Request where
  url : String
  cookie : String
  deriving DecidableEq, Repr

inductive Reply where
  | answered (status : Nat) (body : String)
  /-- Nothing listens, the connection breaks, or time runs out. -/
  | failed (reason : String)
  deriving DecidableEq, Repr

def phrases : List (Nat × String) :=
  [(100, "Continue"), (101, "Switching Protocols"), (102, "Processing"), (200, "OK"),
    (201, "Created"), (202, "Accepted"), (203, "Non Authoritative Information"),
    (204, "No Content"), (205, "Reset Content"), (206, "Partial Content"),
    (207, "Multi-Status"), (208, "Already Reported"), (226, "IM Used"),
    (300, "Multiple Choices"), (301, "Moved Permanently"), (302, "Found"), (303, "See Other"),
    (304, "Not Modified"), (305, "Use Proxy"), (307, "Temporary Redirect"),
    (308, "Permanent Redirect"), (400, "Bad Request"), (401, "Unauthorized"),
    (402, "Payment Required"), (403, "Forbidden"), (404, "Not Found"),
    (405, "Method Not Allowed"), (406, "Not Acceptable"),
    (407, "Proxy Authentication Required"), (408, "Request Timeout"), (409, "Conflict"),
    (410, "Gone"), (411, "Length Required"), (412, "Precondition Failed"),
    (413, "Payload Too Large"), (414, "URI Too Long"), (415, "Unsupported Media Type"),
    (416, "Range Not Satisfiable"), (417, "Expectation Failed"), (418, "I'm a teapot"),
    (421, "Misdirected Request"), (422, "Unprocessable Entity"), (423, "Locked"),
    (424, "Failed Dependency"), (426, "Upgrade Required"), (428, "Precondition Required"),
    (429, "Too Many Requests"), (431, "Request Header Fields Too Large"),
    (451, "Unavailable For Legal Reasons"), (500, "Internal Server Error"),
    (501, "Not Implemented"), (502, "Bad Gateway"), (503, "Service Unavailable"),
    (504, "Gateway Timeout"), (505, "HTTP Version Not Supported"),
    (506, "Variant Also Negotiates"), (507, "Insufficient Storage"), (508, "Loop Detected"),
    (510, "Not Extended"), (511, "Network Authentication Required")]

def statusText (status : Nat) : String :=
  let phrase := match phrases.find? fun entry => entry.1 == status with
    | some (_, phrase) => phrase
    | none => "<unknown status code>"
  toString status ++ " " ++ phrase

/-! ## What may go wrong -/

inductive Outage where
  /-- No reply came. -/
  | noReply (reason : String)
  /-- It replied that it did not succeed. -/
  | status (code : Nat)
  deriving DecidableEq, Repr

def Outage.message : Outage → String
  | noReply reason => "Request failed: " ++ reason
  | status code => "Session service returned " ++ statusText code

inductive BodyFault where
  | unreadable
  | emptyEmail
  deriving DecidableEq, Repr

def BodyFault.message : BodyFault → String
  | unreadable => "unreadable body"
  | emptyEmail => "empty email"

inductive AuthError where
  /-- There was no credential, and nobody was asked. -/
  | missingCredential
  | invalidSession
  | serviceUnavailable (outage : Outage)
  | malformedResponse (fault : BodyFault)
  deriving DecidableEq, Repr

def AuthError.message : AuthError → String
  | missingCredential => "No session credential presented"
  | invalidSession => "Session rejected by session service"
  | serviceUnavailable outage => "Session service unavailable: " ++ outage.message
  | malformedResponse fault => "Malformed session service response: " ++ fault.message

/-! ## Reading a reply -/

structure User where
  email : String
  name : Option String
  deriving DecidableEq, Repr

/-- The email is required; the name may be absent or null. -/
def User.read? (written : Written) : Option User :=
  match written.fields? [⟨"email", .refused⟩, ⟨"name", .default⟩] with
  | some [some email, name] => do
      let email ← email.string?
      let name ← Written.optional? Written.string? name
      return ⟨email, name⟩
  | _ => none

def User.ofBody? (body : String) : Option User := do
  let written ← Written.ofText? body
  match written.fields? [⟨"data", .refused⟩] with
  | some [some data] =>
      match data.fields? [⟨"user", .refused⟩] with
      | some [some user] => User.read? user
      | _ => none
  | _ => none

def isSuccess (status : Nat) : Bool := 200 ≤ status && status < 300

def identityOf : Reply → Except AuthError Identity
  | .failed reason => .error (.serviceUnavailable (.noReply reason))
  | .answered status body =>
      if status = 401 then .error .invalidSession
      else if !isSuccess status then .error (.serviceUnavailable (.status status))
      else
        match User.ofBody? body with
        | none => .error (.malformedResponse .unreadable)
        | some user =>
            if Text.isAllBlank user.email then .error (.malformedResponse .emptyEmail)
            else .ok (Identity.ofEmail user.email user.name)

def isHeaderText (text : String) : Bool :=
  text.toList.all fun character =>
    character == '\t' || (0x20 ≤ character.toNat && character.toNat ≠ 0x7F)

/-- The request that a credential makes, if it can be made. -/
def request? (url : String) (credential : Credential) : Option Request :=
  if isHeaderText credential.header then some ⟨url, credential.header⟩ else none

/-- Ask the service, which `exchange` stands for, whose session a credential is. Without a
credential nobody is asked. The service may live in any monad. -/
def resolveIn {m : Type → Type} [Monad m] (url : String) (exchange : Request → m Reply) :
    Option Credential → m (Except AuthError Identity)
  | none => return .error .missingCredential
  | some credential =>
      match request? url credential with
      | none => return identityOf (.failed "invalid header value")
      | some request => do
          let reply ← exchange request
          return identityOf reply

def resolve (url : String) (exchange : Request → Reply) (credential : Option Credential) :
    Except AuthError Identity :=
  Id.run (resolveIn url (fun request => pure (exchange request)) credential)

end SharedEditing.Session
