import SharedEditing.Proofs.Gateway.Invisibility
import SharedEditing.Proofs.Session.Resolution

/-! # Sessions that are not found out

Whatever keeps a session from being found out, its connection stays as it was: nothing is
told to anybody, and rooms that it asks for wait for it as before. -/

namespace SharedEditing

namespace Gateway

variable {gateway : Gateway} {client : ClientId}

/-- A room is asked for and waits for the connection's identity. Nobody hears of it. -/
structure Parks (gateway : Gateway) (report : Report JoinAnswer) (client : ClientId)
    (room : Room) : Prop where
  answer : report.answer = .parked
  parked : report.gateway.registry.parkedRoom client = some room
  movements : report.movements = []
  postings : report.postings = []
  outboxes : report.gateway.outboxes = gateway.outboxes
  rooms : report.gateway.registry.rooms = gateway.registry.rooms
  channels : report.gateway.registry.channels = gateway.registry.channels

theorem parks (live : gateway.registry.isLive client = true)
    (unidentified : gateway.registry.identityOf client = none) (room : Room) :
    gateway.Parks (gateway.requestJoin client room) client room := by
  rw [Registry.isLive_iff] at live
  rw [Registry.identityOf_eq] at unidentified
  cases profile : gateway.registry.profileOf client with
  | none => exact absurd profile live
  | some pair =>
      obtain ⟨space, standing⟩ := pair
      cases standing with
      | known identity => simp [profile, Standing.identity?] at unidentified
      | waiting parked =>
          unfold requestJoin
          rw [Registry.requestJoin_of_waiting room profile]
          refine ⟨rfl, ?_, rfl, rfl, rfl, rfl, rfl⟩
          simp only [carryOut, post, Registry.parkedRoom_eq, Registry.profileOf_withStanding,
            if_true, profile]
          rfl

end Gateway

namespace Chronicle

open ServiceEvent Session

/-- A login that fails is answered so and leaves the gateway as it is. Whatever happens after
it, until a login succeeds the rooms that the connection asks for wait. -/
structure Refused (observers : Observers) (events : List ServiceEvent) (client : ClientId)
    (error : AuthError) : Prop where
  ignored : (of observers events).gateway.login client (.error error) =
    ⟨false, (of observers events).gateway, [], []⟩
  parks : ∀ later room,
    let chronicle := of observers (events ++ .login client (.error error) :: later)
    FreshIds (events ++ .login client (.error error) :: later) →
      chronicle.gateway.registry.isLive client = true → (client, true) ∉ chronicle.logins →
        chronicle.gateway.Parks (chronicle.gateway.requestJoin client room) client room

/-- Finding out whose session it is fails closed. An identity comes only of a credential that
makes a request to which the service replies with success and a user with an email; every other
behaviour of the service has its error, and without a credential it is not asked. And a login
with any error, at any time, changes nothing at all. -/
theorem resolution_fails_closed {σ : Type} (url : String) (exchange : Request → StateM σ Reply)
    (service : σ) (credential : Option Credential) :
    (∃ outcome after requests,
      (resolveIn url exchange credential).run service = (outcome, after) ∧
        (resolveIn url (recorded exchange) credential).run (service, []) =
          (outcome, after, requests) ∧
        Resolved url exchange service credential outcome after requests) ∧
      ∀ observers events client error, Refused observers events client error := by
  refine ⟨resolved url exchange service credential, fun observers events client error => ?_⟩
  exact ⟨rfl, fun later room fresh live never =>
    Gateway.parks live (identityOf_eq_none fresh never) room⟩

/-- A service that counts its replies names a user without a name. Somebody whose session has
run out waits for a page, fails to log in, and asks for another. -/
theorem resolution_fails_closed_of_nameless :
    let body := "\x7b\"data\":\x7b\"user\":\x7b\"email\":\"bob@x\"\x7d\x7d\x7d"
    let exchange (_ : Request) : StateM Nat Reply := fun replies =>
      (.answered 200 body, replies + 1)
    let events : List ServiceEvent :=
      [.connect ⟨"a"⟩ .page ⟨8, [], true⟩, .frame ⟨"a"⟩ .page (.startEdit "1")]
    let chronicle := of .standard (events ++ [.login ⟨"a"⟩ (.error .invalidSession)])
    (resolveIn "u" exchange (some ⟨"s"⟩)).run 0 = (.ok ⟨"bob@x", "bob@x"⟩, 1) ∧
      Resolved "u" exchange 0 (some ⟨"s"⟩) (.ok ⟨"bob@x", "bob@x"⟩) 1 [⟨"u", "SESSION=s"⟩] ∧
      chronicle.gateway.registry.parkedRoom ⟨"a"⟩ = some ⟨.page, "1"⟩ ∧
      chronicle.gateway.Parks (chronicle.gateway.requestJoin ⟨"a"⟩ ⟨.page, "2"⟩) ⟨"a"⟩
        ⟨.page, "2"⟩ := by
  intro body exchange events chronicle
  have read : User.ofBody? body = some ⟨"bob@x", none⟩ := by decide +kernel
  have asked : request? "u" ⟨"s"⟩ = some ⟨"u", "SESSION=s"⟩ := by decide +kernel
  have said : identityOf (.answered 200 body) = .ok ⟨"bob@x", "bob@x"⟩ := by
    simp only [identityOf, read]
    rfl
  have known : (resolveIn "u" (recorded exchange) (some ⟨"s"⟩)).run (0, []) =
      (.ok ⟨"bob@x", "bob@x"⟩, 1, [⟨"u", "SESSION=s"⟩]) := by
    simp only [resolveIn, asked]
    exact congrArg (fun outcome => (outcome, 1, _)) said
  rcases resolution_fails_closed "u" exchange 0 (some ⟨"s"⟩) with
    ⟨⟨outcome, after, requests, run, recording, resolved⟩, refused⟩
  rw [known] at recording
  cases recording
  exact ⟨run, resolved, by decide +kernel,
    (refused .standard events ⟨"a"⟩ .invalidSession).parks [] ⟨.page, "2"⟩ (by decide)
      (by decide +kernel) (by decide +kernel)⟩

/-- Arrays of the fields in their order stand for records, so somebody is named by a body without
a single object in it. -/
theorem named_without_object :
    let body := "[[[\"bob@x\"]]]"
    let exchange (_ : Request) : StateM Unit Reply := pure (.answered 200 body)
    Written.ofText? body = some (.array [.array [.array [.string (some "bob@x")]]]) ∧
      (resolveIn "u" exchange (some ⟨"s"⟩)).run () = (.ok ⟨"bob@x", "bob@x"⟩, ()) := by
  intro body exchange
  have read : User.ofBody? body = some ⟨"bob@x", none⟩ := by decide +kernel
  have asked : request? "u" ⟨"s"⟩ = some ⟨"u", "SESSION=s"⟩ := by decide +kernel
  refine ⟨by simp only [body, Written.ofText?, String.reduceToList]; rfl, ?_⟩
  simp only [resolveIn, asked]
  change (identityOf (.answered 200 body), ()) = _
  simp only [identityOf, read]
  rfl

end Chronicle

end SharedEditing
