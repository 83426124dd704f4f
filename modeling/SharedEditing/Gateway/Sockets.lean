import SharedEditing.Gateway.FanOut
import SharedEditing.Http.Router
import SharedEditing.Session.Directory
import SharedEditing.Waiting

/-! # Serving sockets

From the request that opens a socket to its end. Opening registers an unknown
connection and starts to find out whose session it presented; frames are applied
while that goes on. Everything an event has to say is queued before anything is
sent, so an outbox is as full as it gets in the middle of an event. -/

namespace SharedEditing

inductive ClientAct where
  | text (text : String)
  | binary
  | ping (text : String)
  | close

def pingLimit : Nat := 125

inductive Wire where
  | text (frame : String)
  | pong (text : String)
  | closed
  deriving DecidableEq, Repr

structure Socket where
  space : Space
  credential : Option Session.Credential
  /-- When the session service will have answered, while it has not. -/
  answersAt : Option Nat := none

structure SocketServer where
  desk : Desk := {}
  directory : Session.Directory := {}
  /-- How long the session service takes, in milliseconds. -/
  delay : Nat := 0
  /-- An outbox holds one message at least. -/
  outboxCapacity : Nat := 128
  clock : Nat := 0
  /-- In opening order. -/
  sockets : Table ClientId Socket := {}

namespace SocketServer

def withGateway (server : SocketServer) (gateway : Gateway) : SocketServer :=
  { server with desk := { server.desk with gateway } }

def concludeLogin (server : SocketServer) (client : ClientId) (socket : Socket) : SocketServer :=
  let report := server.desk.gateway.login client (server.directory.find socket.credential)
  { server.withGateway report.gateway with
    directory := server.directory.counted socket.credential
    sockets := server.sockets.set client { socket with answersAt := none } }

/-- Open a socket in a family of rooms. The identity is found out at once if nobody
has to be asked or there is nothing to wait for. -/
def accept (server : SocketServer) (client : ClientId) (space : Space) (outbox : Outbox)
    (credential : Option Session.Credential) : SocketServer :=
  let connected := server.withGateway (server.desk.gateway.connect client space outbox)
  let answersAt := wakeTime server.clock server.delay
  let socket : Socket := { space, credential, answersAt := some answersAt }
  let opened := { connected with sockets := connected.sockets.set client socket }
  if credential.isNone || answersAt ≤ server.clock then opened.concludeLogin client socket
  else opened

/-- A request to open a socket: the status it is answered with, and what is sent at
once. A socket that can have no outbox ends as soon as it is open. -/
def openSocket (server : SocketServer) (client : ClientId) (target : String)
    (cookies : List String) : Nat × List Wire × SocketServer :=
  match Http.refusedHead? target cookies with
  | some status => (status, [], server)
  | none =>
      match Http.route? target with
      | none => (404, [], server)
      | some space =>
          match Outbox.ofCapacity? (max 1 server.outboxCapacity) with
          | none => (101, [.closed], server)
          | some outbox =>
              let credential := Session.Credential.ofHeaders? cookies
              (101, [], server.accept client space outbox credential)

def closeSocket (server : SocketServer) (client : ClientId) : SocketServer :=
  let report := server.desk.gateway.disconnect client
  { server.withGateway report.gateway with sockets := server.sockets.erase client }

/-- What a client does on its socket: whether it could, and what it is sent
apart from its outbox. A text that is no frame is passed over, and so is
anything binary. A ping that carries too much breaks the rules of the transport,
and ends the connection. -/
def act (server : SocketServer) (client : ClientId) (act : ClientAct) :
    Bool × List Wire × SocketServer :=
  match server.sockets.get? client with
  | none => (false, [], server)
  | some socket =>
      match act with
      | .text text =>
          match ClientMessage.ofText? text with
          | some message =>
              let report := server.desk.gateway.dispatch client socket.space message
              (true, [], server.withGateway report.gateway)
          | none => (true, [], server)
      | .binary => (true, [], server)
      | .ping text =>
          if text.utf8ByteSize ≤ pingLimit then (true, [.pong text], server)
          else (true, [.closed], server.closeSocket client)
      | .close => (true, [.closed], server.closeSocket client)

def vanish (server : SocketServer) (client : ClientId) : SocketServer :=
  if server.sockets.has client then server.closeSocket client else server

/-- Let time pass. Answers that have come by then are concluded in opening order. -/
def tick (server : SocketServer) (milliseconds : Nat) : SocketServer :=
  let later := { server with clock := server.clock + milliseconds }
  later.sockets.entries.foldl
    (fun server entry =>
      match entry.2.answersAt with
      | some time => if time ≤ later.clock then server.concludeLogin entry.1 entry.2 else server
      | none => server)
    later

def handle (server : SocketServer) (change : Change) : Outcome × SocketServer :=
  let (outcome, desk) := server.desk.handle change
  (outcome, { server with desk })

def waitingFor (server : SocketServer) (client : ClientId) : List Wire :=
  (server.desk.gateway.waiting client).map fun message => .text message.frame

def flush (server : SocketServer) : List (ClientId × List Wire) × SocketServer :=
  let sent := server.sockets.keys.map fun client => (client, server.waitingFor client)
  (sent, server.withGateway (server.sockets.keys.foldl Gateway.drain server.desk.gateway))

end SocketServer

end SharedEditing
