import SharedEditing.Http.Cors
import SharedEditing.Room

/-! # Routes

Two paths open connections, one for each family of rooms. A request to open one
is checked step by step, and the first thing missing decides the answer. The
target of a request is its path, or an address in full with the path in it. -/

namespace SharedEditing.Http

structure Request where
  method : String
  target : String
  headers : List (String × String) := []
  deriving Repr

structure Response where
  status : Nat
  allow : Option String := none
  allowOrigin : Option String := none
  allowCredentials : Option String := none
  deriving DecidableEq, Repr

namespace Request

def header? (request : Request) (name : String) : Option String :=
  (request.headers.find? fun header => header.1.toLower == name).map Prod.snd

end Request

def isSchemeCharacter (character : Char) : Bool :=
  character.isAlphanum || character == '+' || character == '-' || character == '.'

def isQueryMark (character : Char) : Bool := character == '?' || character == '#'

def afterHost? (target : List Char) : Option (List Char) :=
  match target.dropWhile isSchemeCharacter with
  | ':' :: '/' :: '/' :: rest =>
      some (rest.dropWhile fun character => character ≠ '/' && !isQueryMark character)
  | _ => none

def targetPath (target : String) : String :=
  let path := (afterHost? target.toList).getD target.toList
  String.ofList (path.takeWhile fun character => !isQueryMark character)

example : targetPath "/ws?x=/y" = "/ws" := by rfl

example : targetPath "http://host:80/ws/page/edit?x" = "/ws/page/edit" := by rfl

def route? (target : String) : Option Space :=
  let path := targetPath target
  if path = "/ws" then some .app
  else if path = "/ws/page/edit" then some .page
  else none

def occursIn (part : List Char) : List Char → Bool
  | [] => part.isEmpty
  | character :: rest => part.isPrefixOf (character :: rest) || occursIn part rest

def asksForSocket (request : Request) : Bool :=
  let upgrades := (request.header? "connection").any fun value =>
    occursIn "upgrade".toList value.toLower.toList
  let isSocket := (request.header? "upgrade").any fun value => value.toLower == "websocket"
  let isVersion := (request.header? "sec-websocket-version").any fun value => value == "13"
  upgrades && isSocket && isVersion && (request.header? "sec-websocket-key").isSome

/-! ## Requests as they arrive -/

def headerLimit : Nat := 100

def targetLimit : Nat := 65534

def headLimit : Nat := 417791

/-- The headers that ask for a socket, which every handshake carries. -/
def handshakeHeaders : List String :=
  ["host", "connection", "upgrade", "sec-websocket-version", "sec-websocket-key"]

def isLineCharacter (character : Char) : Bool :=
  0x20 < character.toNat && character.toNat ≠ 0x7F

def isPathCharacter (character : Char) : Bool :=
  isLineCharacter character && character != '<' && character != '>' && character != '\x60'

def isQueryCharacter (character : Char) : Bool :=
  isLineCharacter character && character != '<' && character != '>' && character != '"'

/-- What is sent of a target: what follows a number sign stays with the client. -/
def sentTarget (target : String) : List Char := target.toList.takeWhile (· ≠ '#')

def isTarget (sent : List Char) : Bool :=
  let (path, query) := sent.span (· ≠ '?')
  path.all isPathCharacter && (query.drop 1).all isQueryCharacter

def headSize (sent : List Char) (values : List String) : Nat :=
  values.foldl (fun size value => size + "cookie: \r\n".length + value.utf8ByteSize)
    (String.ofList sent).utf8ByteSize

/-- The status of a head that is refused before it is routed. The first line is read
first, then the headers one by one after those of the handshake, so a bad value
counts only if it comes in time. The target is looked at last. -/
def refusedHead? (target : String) (values : List String) : Option Nat :=
  let room := headerLimit - handshakeHeaders.length
  let sent := sentTarget target
  if !sent.all isLineCharacter then some 400
  else if !(values.take room).all Session.isHeaderText then some 400
  else if room < values.length || headLimit < headSize sent values then some 431
  else if targetLimit < (String.ofList sent).utf8ByteSize then some 414
  else if !isTarget sent then some 400
  else none

/-! ## Answers -/

def routeMethods : String := "GET,HEAD"

/-- The status and the allowed methods of an answer. `canUpgrade` says whether
there is a connection to open a socket on. -/
def answer (canUpgrade : Bool) (request : Request) : Nat × Option String :=
  if request.method = "OPTIONS" then
    (200, (route? request.target).map fun _ => routeMethods)
  else
    match route? request.target with
    | none => (404, none)
    | some _ =>
        if request.method = "GET" then
          if !asksForSocket request then (400, none)
          else if canUpgrade then (101, none)
          else (426, none)
        else if request.method = "HEAD" then (405, none)
        else (405, some routeMethods)

def respond (policy : CorsPolicy) (canUpgrade : Bool) (request : Request) : Response :=
  let (status, allow) := answer canUpgrade request
  { status
    allow
    allowOrigin := policy.allowedOrigin (request.header? "origin")
    allowCredentials := if policy.allowsCredentials then some "true" else none }

end SharedEditing.Http
