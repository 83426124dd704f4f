import SharedEditing.Proofs.Json.Records
import SharedEditing.Session.Resolver

/-! # Finding out whose session it is

Between a credential and an identity lies a request, a reply, its status, its body and the
user named there. Each of them may fail in its own way, and only where none does is there
an identity. -/

namespace SharedEditing

def Text.Blank (text : String) : Prop := ∀ character ∈ text.toList, isBlank character = true

theorem Text.isAllBlank_iff {text : String} : isAllBlank text = true ↔ Blank text :=
  List.all_eq_true

namespace Session

open Written

/-! ## Users in bodies -/

namespace User

inductive IsName : Option Written → Option String → Prop where
  | absent : IsName none none
  | null : IsName (some .null) none
  | given (name : String) : IsName (some (.string (some name))) (some name)

/-- A user as it is written: an object that has the email once and the name once at most, among
any other members, or an array of the two. -/
inductive IsWritten (user : User) : Written → Prop where
  | object {members : List (Option String × Written)} {keyed : List (String × Written)}
      {name : Option Written} (keys : keyed? members = some keyed)
      (emails : occurrences keyed "email" = [.string (some user.email)])
      (names : occurrences keyed "name" = name.toList) (named : IsName name user.name) :
      IsWritten user (.object members)
  | array {name : Option Written} (named : IsName name user.name) :
      IsWritten user (.array (.string (some user.email) :: name.toList))

def StandsIn (user : User) (body : String) : Prop :=
  ∃ written data inner, Written.ofText? body = some written ∧ Holds "data" data written ∧
    Holds "user" inner data ∧ user.IsWritten inner

example : (User.mk "bob@x" none).StandsIn
    "\x7b\"data\":\x7b\"user\":\x7b\"email\":\"bob@x\",\"name\":null\x7d\x7d\x7d" := by
  refine ⟨.object [("data", .object [("user",
      .object [("email", .string "bob@x"), ("name", .null)])])], _, _, ?_, .object rfl rfl,
    .object rfl rfl, .object rfl rfl rfl .null⟩
  simp only [Written.ofText?, String.reduceToList]
  rfl

variable {user other : User} {written : Written} {body : String} {name : Option String}

theorem optional?_eq_some_iff {found : Option Written} :
    Written.optional? Written.string? found = some name ↔ IsName found name := by
  constructor
  · intro read
    cases found with
    | none =>
        cases read
        exact .absent
    | some value =>
        cases value with
        | null =>
            cases read
            exact .null
        | string text =>
            simp only [optional?, string?, Option.map_eq_some_iff] at read
            rcases read with ⟨given, rfl, rfl⟩
            exact .given given
        | _ => cases read
  · intro named
    cases named <;> rfl

theorem fields?_eq_some_iff {email : Written} {found : Option Written} :
    written.fields? [⟨"email", .refused⟩, ⟨"name", .default⟩] = some [some email, found] ↔
      (∃ members keyed, written = .object members ∧ keyed? members = some keyed ∧
        occurrences keyed "email" = [email] ∧ occurrences keyed "name" = found.toList) ∨
      written = .array (email :: found.toList) := by
  have places (items : List Written) :
      places? [⟨"email", .refused⟩, ⟨"name", .default⟩] items = some [some email, found] ↔
        items = email :: found.toList := by
    rcases items with _ | ⟨one, _ | ⟨two, _ | ⟨three, more⟩⟩⟩ <;> cases found <;> simp [places?]
  simp [Written.fields?_eq_some_iff, member?_refused_eq_some_iff, member?_default_eq_some_iff,
    places]

theorem read?_eq_some_iff : read? written = some user ↔ user.IsWritten written := by
  constructor
  · intro read
    unfold read? at read
    split at read
    · rename_i email found fields
      simp only [Option.bind_eq_bind, Option.pure_def, Option.bind_eq_some_iff,
        string?_eq_some_iff, optional?_eq_some_iff, Option.some.injEq] at read
      rcases read with ⟨address, rfl, name, named, rfl⟩
      rcases fields?_eq_some_iff.mp fields with ⟨members, keyed, rfl, keys, emails, names⟩ | rfl
      · exact .object keys emails names named
      · exact .array named
    · cases read
  · have reads {found : Option Written} (named : IsName found user.name)
        (fields : written.fields? [⟨"email", .refused⟩, ⟨"name", .default⟩] =
          some [some (.string (some user.email)), found]) : read? written = some user := by
      simp [read?, fields, optional?_eq_some_iff.mpr named, Written.string?]
    intro stands
    cases stands with
    | object keys emails names named =>
        exact reads named (fields?_eq_some_iff.mpr (.inl ⟨_, _, rfl, keys, emails, names⟩))
    | array named => exact reads named (fields?_eq_some_iff.mpr (.inr rfl))

theorem ofBody?_eq_some_iff : ofBody? body = some user ↔ user.StandsIn body := by
  simp only [ofBody?, StandsIn, Option.bind_eq_bind, Option.bind_eq_some_iff]
  constructor
  · rintro ⟨written, syntactic, read⟩
    split at read
    · rename_i data fields
      split at read
      · rename_i inner deeper
        exact ⟨written, data, inner, syntactic, fields?_single_eq_some_iff.mp fields,
          fields?_single_eq_some_iff.mp deeper, read?_eq_some_iff.mp read⟩
      · cases read
    · cases read
  · rintro ⟨written, data, inner, syntactic, outer, deeper, stands⟩
    refine ⟨written, syntactic, ?_⟩
    simp only [fields?_single_eq_some_iff.mpr outer, fields?_single_eq_some_iff.mpr deeper]
    exact read?_eq_some_iff.mpr stands

theorem StandsIn.unique (stands : user.StandsIn body) (also : other.StandsIn body) :
    user = other := by
  rw [← ofBody?_eq_some_iff] at stands also
  exact Option.some.inj (stands.symm.trans also)

/-- Who a user is to others: the email as it was given, and the name, or the email instead of a
name that is blank or was not given. -/
inductive Shows (user : User) : Identity → Prop where
  | named {name : String} (given : user.name = some name) (visible : ¬ Text.Blank name) :
      Shows user ⟨name, user.email⟩
  | nameless (blank : ∀ name, user.name = some name → Text.Blank name) :
      Shows user ⟨user.email, user.email⟩

theorem shows_iff {identity : Identity} :
    user.Shows identity ↔ identity = .ofEmail user.email user.name := by
  unfold Identity.ofEmail
  constructor
  · intro shows
    cases shows with
    | named given visible =>
        simp only [given]
        rw [if_neg (mt Text.isAllBlank_iff.mp visible)]
    | nameless blank =>
        cases given : user.name with
        | none => rfl
        | some name =>
            simp only
            rw [if_pos (Text.isAllBlank_iff.mpr (blank name given))]
  · rintro rfl
    cases given : user.name with
    | none => exact .nameless (by simp [given])
    | some name =>
        simp only
        split
        · rename_i blank
          exact .nameless (by simpa [given] using Text.isAllBlank_iff.mp blank)
        · rename_i visible
          exact .named given (mt Text.isAllBlank_iff.mpr visible)

end User

/-! ## Replies -/

def Succeeded (status : Nat) : Prop := 200 ≤ status ∧ status < 300

theorem isSuccess_iff {status : Nat} : isSuccess status = true ↔ Succeeded status := by
  simp [isSuccess, Succeeded]

inductive Comes : Reply → Except AuthError Identity → Prop where
  | unreached (reason : String) :
      Comes (.failed reason) (.error (.serviceUnavailable (.noReply reason)))
  | rejected (body : String) : Comes (.answered 401 body) (.error .invalidSession)
  | unsuccessful {status : Nat} (body : String) (other : status ≠ 401)
      (failed : ¬ Succeeded status) :
      Comes (.answered status body) (.error (.serviceUnavailable (.status status)))
  | unreadable {status : Nat} {body : String} (success : Succeeded status)
      (nobody : ∀ user : User, ¬ user.StandsIn body) :
      Comes (.answered status body) (.error (.malformedResponse .unreadable))
  | blank {status : Nat} {body : String} {user : User} (success : Succeeded status)
      (stands : user.StandsIn body) (blank : Text.Blank user.email) :
      Comes (.answered status body) (.error (.malformedResponse .emptyEmail))
  | known {status : Nat} {body : String} {user : User} {identity : Identity}
      (success : Succeeded status) (stands : user.StandsIn body)
      (addressed : ¬ Text.Blank user.email) (shows : user.Shows identity) :
      Comes (.answered status body) (.ok identity)

variable {reply : Reply} {outcome : Except AuthError Identity}

theorem Succeeded.ne_rejected {status : Nat} (success : Succeeded status) : status ≠ 401 := by
  rintro rfl
  exact absurd success.2 (by decide)

theorem Comes.eq (comes : Comes reply outcome) : outcome = identityOf reply := by
  cases comes with
  | unreached reason => rfl
  | rejected body => rfl
  | unsuccessful body other failed =>
      have unsuccessful := Bool.eq_false_iff.mpr (mt isSuccess_iff.mp failed)
      simp [identityOf, other, unsuccessful]
  | unreadable success nobody =>
      have unread := Option.eq_none_iff_forall_ne_some.mpr fun user =>
        mt User.ofBody?_eq_some_iff.mp (nobody user)
      simp [identityOf, success.ne_rejected, isSuccess_iff.mpr success, unread]
  | blank success stands blank =>
      simp [identityOf, success.ne_rejected, isSuccess_iff.mpr success,
        User.ofBody?_eq_some_iff.mpr stands, Text.isAllBlank_iff.mpr blank]
  | known success stands addressed shows =>
      have visible := Bool.eq_false_iff.mpr (mt Text.isAllBlank_iff.mp addressed)
      simp [identityOf, success.ne_rejected, isSuccess_iff.mpr success,
        User.ofBody?_eq_some_iff.mpr stands, visible, User.shows_iff.mp shows]

theorem exists_comes (reply : Reply) : ∃ outcome, Comes reply outcome := by
  cases reply with
  | failed reason => exact ⟨_, .unreached reason⟩
  | answered status body =>
      by_cases rejected : status = 401
      · subst rejected
        exact ⟨_, .rejected body⟩
      by_cases success : Succeeded status
      · by_cases named : ∃ user : User, user.StandsIn body
        · rcases named with ⟨user, stands⟩
          by_cases blank : Text.Blank user.email
          · exact ⟨_, .blank success stands blank⟩
          · exact ⟨_, .known success stands blank (User.shows_iff.mpr rfl)⟩
        · exact ⟨_, .unreadable success (not_exists.mp named)⟩
      · exact ⟨_, .unsuccessful body rejected success⟩

theorem comes_iff : Comes reply outcome ↔ outcome = identityOf reply := by
  refine ⟨Comes.eq, ?_⟩
  rintro rfl
  rcases exists_comes reply with ⟨outcome, comes⟩
  exact comes.eq ▸ comes

namespace Comes

variable {other : Except AuthError Identity} (comes : Comes reply outcome)

include comes

theorem unique (also : Comes reply other) : outcome = other := comes.eq.trans also.eq.symm

theorem known_iff {identity : Identity} : outcome = .ok identity ↔
    ∃ status body, ∃ user : User, reply = .answered status body ∧ Succeeded status ∧
      user.StandsIn body ∧ ¬ Text.Blank user.email ∧ user.Shows identity := by
  constructor
  · rintro rfl
    cases comes with
    | known success stands addressed shows =>
        exact ⟨_, _, _, rfl, success, stands, addressed, shows⟩
  · rintro ⟨status, body, user, rfl, success, stands, addressed, shows⟩
    exact comes.unique (.known success stands addressed shows)

theorem rejected_iff : outcome = .error .invalidSession ↔ ∃ body, reply = .answered 401 body := by
  constructor
  · rintro rfl
    cases comes with
    | rejected body => exact ⟨body, rfl⟩
  · rintro ⟨body, rfl⟩
    exact comes.unique (.rejected body)

theorem ne_missing : outcome ≠ .error .missingCredential := by
  rintro rfl
  cases comes

theorem unavailable_iff : (∃ outage, outcome = .error (.serviceUnavailable outage)) ↔
    (∃ reason, reply = .failed reason) ∨
      ∃ status body, reply = .answered status body ∧ status ≠ 401 ∧ ¬ Succeeded status := by
  constructor
  · rintro ⟨outage, rfl⟩
    cases comes with
    | unreached reason => exact .inl ⟨reason, rfl⟩
    | unsuccessful body other failed => exact .inr ⟨_, body, rfl, other, failed⟩
  · rintro (⟨reason, rfl⟩ | ⟨status, body, rfl, other, failed⟩)
    · exact ⟨_, comes.unique (.unreached reason)⟩
    · exact ⟨_, comes.unique (.unsuccessful body other failed)⟩

theorem malformed_iff : (∃ fault, outcome = .error (.malformedResponse fault)) ↔
    ∃ status body, reply = .answered status body ∧ Succeeded status ∧
      ∀ user : User, user.StandsIn body → Text.Blank user.email := by
  constructor
  · rintro ⟨fault, rfl⟩
    cases comes with
    | unreadable success nobody =>
        exact ⟨_, _, rfl, success, fun user stands => absurd stands (nobody user)⟩
    | blank success stands blank =>
        exact ⟨_, _, rfl, success, fun user also => also.unique stands ▸ blank⟩
  · rintro ⟨status, body, rfl, success, blank⟩
    by_cases named : ∃ user : User, user.StandsIn body
    · rcases named with ⟨user, stands⟩
      exact ⟨_, comes.unique (.blank success stands (blank user stands))⟩
    · exact ⟨_, comes.unique (.unreadable success (not_exists.mp named))⟩

end Comes

/-! ## Asking -/

section Asking

theorem resolveIn_of_unsent {τ : Type} {url : String} {presented : Credential}
    (exchange : Request → StateM τ Reply) (service : τ) (unsent : request? url presented = none) :
    (resolveIn url exchange (some presented)).run service =
      (identityOf (.failed "invalid header value"), service) := by
  simp only [resolveIn, unsent]
  rfl

theorem resolveIn_of_sent {τ : Type} {url : String} {presented : Credential} {request : Request}
    (exchange : Request → StateM τ Reply) (service : τ)
    (sent : request? url presented = some request) :
    (resolveIn url exchange (some presented)).run service =
      (identityOf ((exchange request).run service).1, ((exchange request).run service).2) := by
  simp only [resolveIn, sent]
  rfl

variable {σ : Type} (url : String) (exchange : Request → StateM σ Reply) (service : σ)
  (credential : Option Credential)

def recorded (exchange : Request → StateM σ Reply) :
    Request → StateM (σ × List Request) Reply := fun request (state, requests) =>
  let (reply, after) := (exchange request).run state
  (reply, after, requests ++ [request])

def asked? : Option Request := credential.bind (request? url)

def Replied (reply : Reply) : Prop :=
  ∃ request, asked? url credential = some request ∧ ((exchange request).run service).1 = reply

structure Resolved (outcome : Except AuthError Identity) (after : σ) (requests : List Request) :
    Prop where
  known_iff : ∀ identity, outcome = .ok identity ↔ ∃ status body, ∃ user : User,
    Replied url exchange service credential (.answered status body) ∧ Succeeded status ∧
      user.StandsIn body ∧ ¬ Text.Blank user.email ∧ user.Shows identity
  rejected_iff : outcome = .error .invalidSession ↔
    ∃ body, Replied url exchange service credential (.answered 401 body)
  missing_iff : outcome = .error .missingCredential ↔ credential = none
  unavailable_iff : (∃ outage, outcome = .error (.serviceUnavailable outage)) ↔
    (credential ≠ none ∧ asked? url credential = none) ∨
      (∃ reason, Replied url exchange service credential (.failed reason)) ∨
      ∃ status body, Replied url exchange service credential (.answered status body) ∧
        status ≠ 401 ∧ ¬ Succeeded status
  malformed_iff : (∃ fault, outcome = .error (.malformedResponse fault)) ↔
    ∃ status body, Replied url exchange service credential (.answered status body) ∧
      Succeeded status ∧ ∀ user : User, user.StandsIn body → Text.Blank user.email
  requests : requests = (asked? url credential).toList
  after : after = (asked? url credential).elim service fun request =>
    ((exchange request).run service).2

variable {url exchange service credential} {outcome : Except AuthError Identity} {after : σ}

theorem Resolved.of_replied {request : Request} {reply : Reply}
    (asked : asked? url credential = some request)
    (replied : (exchange request).run service = (reply, after)) (comes : Comes reply outcome) :
    Resolved url exchange service credential outcome after [request] := by
  have only (other : Reply) : Replied url exchange service credential other ↔ reply = other := by
    simp [Replied, asked, replied]
  have presented : credential ≠ none := by
    rintro rfl
    cases asked
  constructor
  case known_iff => simp only [only, comes.known_iff, implies_true]
  case rejected_iff => simp only [only, comes.rejected_iff]
  case missing_iff => exact iff_of_false comes.ne_missing presented
  case unavailable_iff => simp [only, comes.unavailable_iff, asked]
  case malformed_iff => simp only [only, comes.malformed_iff]
  case requests => rw [asked, Option.toList_some]
  case after => simp [asked, replied]

theorem Resolved.of_unasked (unasked : asked? url credential = none)
    (cause : credential = none ∧ outcome = .error .missingCredential ∨
      credential ≠ none ∧ ∃ outage, outcome = .error (.serviceUnavailable outage)) :
    Resolved url exchange service credential outcome service [] := by
  have never (reply : Reply) : ¬ Replied url exchange service credential reply := by
    simp [Replied, unasked]
  constructor
  case requests => rw [unasked, Option.toList_none]
  case after => rw [unasked, Option.elim_none]
  all_goals
    rcases cause with ⟨rfl, rfl⟩ | ⟨presented, outage, rfl⟩
    · simp [never]
    · simp [never, presented, unasked]

/-- Whatever the service does: there is an identity exactly where a credential makes a request
to which the service replies with success and a user whose email is not blank. The service is
asked once for a credential that can be sent, and otherwise not at all. -/
theorem resolved (url : String) (exchange : Request → StateM σ Reply) (service : σ)
    (credential : Option Credential) :
    ∃ outcome after requests,
      (resolveIn url exchange credential).run service = (outcome, after) ∧
        (resolveIn url (recorded exchange) credential).run (service, []) =
          (outcome, after, requests) ∧
        Resolved url exchange service credential outcome after requests := by
  cases credential with
  | none =>
      exact ⟨_, _, _, rfl, rfl, .of_unasked rfl (.inl ⟨rfl, rfl⟩)⟩
  | some presented =>
      cases asked : request? url presented with
      | none =>
          exact ⟨_, _, _, resolveIn_of_unsent exchange service asked,
            resolveIn_of_unsent (recorded exchange) _ asked,
            .of_unasked asked (.inr ⟨nofun, _, rfl⟩)⟩
      | some request =>
          exact ⟨_, _, _, resolveIn_of_sent exchange service asked,
            resolveIn_of_sent (recorded exchange) _ asked,
            .of_replied asked rfl (comes_iff.mpr rfl)⟩

end Asking

end Session

end SharedEditing
