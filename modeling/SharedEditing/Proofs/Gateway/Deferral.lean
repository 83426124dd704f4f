import SharedEditing.Proofs.Gateway.Chronicle

/-! # Deferred requests

Whoever asks for a room before the session service has answered ends up where they would
have been if it had answered at once. A seat whose person is not known yet holds back the
one request that matters, and attaching the identity commutes with every frame. -/

namespace SharedEditing

namespace Seat

def heed (space : Space) (seat : Seat) : ClientMessage → Seat
  | .startEdit resource => seat.request ⟨space, resource⟩
  | .leaveEdit resource => seat.leave ⟨space, resource⟩
  | .mousePointer _ => seat

/-- The person is not known yet and has asked for rooms of one family only. -/
structure Awaiting (space : Space) (seat : Seat) : Prop where
  unknown : seat.identity = none
  nowhere : seat.current = fun _ => none
  own : ∀ room, seat.pending = some room → room.space = space

variable {space : Space} {seat : Seat}

namespace Awaiting

theorem authenticate_eq (awaiting : seat.Awaiting space) (identity : Identity) :
    seat.authenticate identity = seat.identify identity := by
  rw [Seat.authenticate, awaiting.unknown]
  rfl

theorem request_eq (awaiting : seat.Awaiting space) (room : Room) :
    seat.request room = { seat with pending := some room } := by
  rw [Seat.request, awaiting.unknown]
  rfl

theorem leave_eq (awaiting : seat.Awaiting space) (room : Room) :
    seat.leave room =
      { seat with pending := if seat.pending = some room then none else seat.pending } := by
  have vacant : ∀ pending, ({ seat with pending } : Seat).vacate room = { seat with pending } := by
    intro pending
    have absent : seat.current room.space ≠ some room.resource := by simp [awaiting.nowhere]
    exact if_neg absent
  unfold Seat.leave Seat.withdraw
  by_cases asked : seat.pending = some room
  · rw [if_pos ⟨awaiting.unknown, asked⟩, if_pos asked]
    exact vacant none
  · rw [if_neg fun both => asked both.2, if_neg asked]
    exact vacant seat.pending

theorem heed (awaiting : seat.Awaiting space) (message : ClientMessage) :
    (seat.heed space message).Awaiting space := by
  cases message with
  | startEdit resource =>
      change (seat.request ⟨space, resource⟩).Awaiting space
      rw [awaiting.request_eq]
      refine ⟨awaiting.unknown, awaiting.nowhere, fun room asked => ?_⟩
      cases asked
      rfl
  | leaveEdit resource =>
      change (seat.leave ⟨space, resource⟩).Awaiting space
      rw [awaiting.leave_eq]
      refine ⟨awaiting.unknown, awaiting.nowhere, fun room asked => ?_⟩
      split at asked
      · cases asked
      · exact awaiting.own room asked
  | mousePointer pointer => exact awaiting

theorem identify_eq (awaiting : seat.Awaiting space) (identity : Identity) :
    seat.identify identity =
      ⟨seat.space, some identity, none,
        fun other => if other = space then seat.pending.map Room.resource else none⟩ := by
  unfold Seat.identify
  cases asked : seat.pending with
  | none => simp [awaiting.nowhere]
  | some room =>
      have own := awaiting.own room asked
      simp [Seat.join, Seat.sit, awaiting.nowhere, own]

theorem map_pending (awaiting : seat.Awaiting space) :
    (seat.pending.map Room.resource).map (Room.mk space) = seat.pending := by
  cases asked : seat.pending with
  | none => rfl
  | some room =>
      have own := awaiting.own room asked
      simp [← own]

theorem pending_eq_iff (awaiting : seat.Awaiting space) (resource : String) :
    seat.pending = some ⟨space, resource⟩ ↔ seat.pending.map Room.resource = some resource := by
  cases asked : seat.pending with
  | none => simp
  | some room =>
      obtain ⟨family, about⟩ := room
      have own : family = space := awaiting.own _ asked
      simp [own]

theorem identify_heed (awaiting : seat.Awaiting space) (identity : Identity)
    (message : ClientMessage) :
    (seat.heed space message).identify identity =
      (seat.identify identity).heed space message := by
  rw [(awaiting.heed message).identify_eq, awaiting.identify_eq]
  cases message with
  | startEdit resource =>
      have requested := awaiting.request_eq ⟨space, resource⟩
      simp only [Seat.heed, requested]
      simp only [Seat.request, Seat.join, Seat.sit, Option.isSome_some, if_true, Option.map_some]
      congr 1
      funext other
      split <;> rfl
  | leaveEdit resource =>
      have left := awaiting.leave_eq ⟨space, resource⟩
      have same := awaiting.pending_eq_iff resource
      simp only [Seat.heed, left]
      simp only [Seat.leave, Seat.withdraw, Seat.vacate, Seat.sit, if_true, same, reduceCtorEq,
        false_and, if_false]
      split
      · simp only [Option.map_none]
        congr 1
        funext other
        split <;> rfl
      · rfl
  | mousePointer pointer => rfl

theorem foldl_heed (awaiting : seat.Awaiting space) (messages : List ClientMessage) :
    (messages.foldl (Seat.heed space) seat).Awaiting space := by
  induction messages generalizing seat with
  | nil => exact awaiting
  | cons message rest induction => exact induction (awaiting.heed message)

theorem identify_foldl_heed (awaiting : seat.Awaiting space) (identity : Identity)
    (messages : List ClientMessage) :
    (messages.foldl (Seat.heed space) seat).identify identity =
      messages.foldl (Seat.heed space) (seat.identify identity) := by
  induction messages generalizing seat with
  | nil => rfl
  | cons message rest induction =>
      rw [List.foldl_cons, List.foldl_cons, induction (awaiting.heed message),
        awaiting.identify_heed]

end Awaiting

theorem awaiting_of_connected (space : Space) : Awaiting space { space } where
  unknown := rfl
  nowhere := rfl
  own _ asked := by cases asked

end Seat

/-! ## The seat of one connection in a run -/

namespace ServiceEvent

def frameOf? (client : ClientId) : ServiceEvent → Option ClientMessage
  | frame sender _ message => if sender = client then some message else none
  | _ => none

def OnlyFrames (client : ClientId) (space : Space) (events : List ServiceEvent) : Prop :=
  ∀ event ∈ events, event.actor? = some client → ∃ message, event = frame client space message

end ServiceEvent

namespace Seating

open ServiceEvent

theorem get?_after_of_frame (seating : Seating) (client : ClientId) (space : Space)
    (message : ClientMessage) :
    (seating.after [.frame client space message]).get? client =
      (seating.get? client).map fun seat => seat.heed space message := by
  cases message with
  | startEdit resource =>
      exact (Table.get?_modify seating client client _).trans (if_pos rfl)
  | leaveEdit resource =>
      exact (Table.get?_modify seating client client _).trans (if_pos rfl)
  | mousePointer pointer => exact (Option.map_id' (x := seating.get? client)).symm

theorem get?_after (seating : Seating) {client : ClientId} {space : Space}
    {events : List ServiceEvent} (frames : OnlyFrames client space events) :
    (seating.after events).get? client =
      (seating.get? client).map fun seat =>
        (events.filterMap (frameOf? client)).foldl (Seat.heed space) seat := by
  induction events generalizing seating with
  | nil => simp [after]
  | cons event rest induction =>
      have split : seating.after (event :: rest) = (seating.after [event]).after rest :=
        seating.after_append [event] rest
      have later := induction (seating.after [event]) fun other member =>
        frames other (List.mem_cons_of_mem _ member)
      rw [split, later]
      by_cases own : event.actor? = some client
      · rcases frames event (.head rest) own with ⟨message, rfl⟩
        rw [get?_after_of_frame, Option.map_map]
        simp [frameOf?, Function.comp_def]
      · have silent : event.frameOf? client = none := by
          cases event with
          | frame sender family message =>
              exact if_neg fun same => own (congrArg some same)
          | _ => rfl
        rw [seating.get?_after_of_other own, List.filterMap_cons, silent]

end Seating

/-! ## The rooms of one connection -/

namespace Registry

variable {registry : Registry} {client : ClientId} {space : Space}

theorem currentIn_of_seatOf {seat : Seat} (found : registry.seatOf client = some seat) :
    currentIn (registry.roomsOf client) = seat.current := by
  rcases Option.map_eq_some_iff.mp found with ⟨profile, _, rfl⟩
  rfl

/-- Whoever is in one family at most is in one room at most. -/
theorem WellFormed.roomsOf_eq (wellFormed : registry.WellFormed) (client : ClientId)
    (space : Space)
    (elsewhere : ∀ other, other ≠ space → currentIn (registry.roomsOf client) other = none) :
    registry.roomsOf client =
      ((currentIn (registry.roomsOf client) space).map (Room.mk space)).toList := by
  have one := wellFormed.onePerSpace client
  have distinct := wellFormed.nodup_rooms client
  have family : ∀ room ∈ registry.roomsOf client, room.space = space := by
    intro room held
    by_contra different
    have present := (currentIn_eq_some_iff one).mpr held
    rw [elsewhere room.space different] at present
    cases present
  generalize registry.roomsOf client = rooms at one distinct family
  cases rooms with
  | nil => rfl
  | cons room rest =>
      have alone : rest = [] := by
        apply List.eq_nil_iff_forall_not_mem.mpr
        intro other held
        have sameSpace := (family room (.head rest)).trans
          (family other (List.mem_cons_of_mem room held)).symm
        have same := one room (.head rest) other (List.mem_cons_of_mem room held) sameSpace
        exact (List.nodup_cons.mp distinct).1 (same ▸ held)
      subst alone
      have own := family room (.head [])
      simp [currentIn, ← own]

end Registry

namespace Chronicle

open ServiceEvent

variable {before early late : List ServiceEvent} {client : ClientId} {space : Space}
  {outbox : Outbox}

theorem seat_before_login (seating : Seating) (outbox : Outbox)
    (frames : OnlyFrames client space early) :
    ((seating.after [.connect client space outbox]).after early).get? client =
      some ((early.filterMap (frameOf? client)).foldl (Seat.heed space) { space }) := by
  rw [Seating.get?_after _ frames, Seating.get?_after_of_connect, Option.map_some]

theorem seat_after_login (seating : Seating) (outbox : Outbox) (identity : Identity)
    (frames : OnlyFrames client space (early ++ late)) :
    (seating.after (.connect client space outbox ::
        (early ++ .login client (.ok identity) :: late))).get? client =
      some ((((early ++ late).filterMap (frameOf? client)).foldl (Seat.heed space)
        { space }).identify identity) := by
  have sooner : OnlyFrames client space early := fun event member =>
    frames event (List.mem_append_left late member)
  have later : OnlyFrames client space late := fun event member =>
    frames event (List.mem_append_right early member)
  have start := Seat.awaiting_of_connected space
  have awaiting := start.foldl_heed (early.filterMap (frameOf? client))
  have split : seating.after (.connect client space outbox ::
      (early ++ .login client (.ok identity) :: late)) =
        ((((seating.after [.connect client space outbox]).after early).after
          [.login client (.ok identity)]).after late) := by
    simp only [← Seating.after_append, List.append_assoc, List.cons_append, List.nil_append]
  -- The seat still awaits the answer when it comes, so the answer may as well come last.
  rw [split, Seating.get?_after _ later, Seating.get?_after_of_login,
    seat_before_login seating outbox sooner]
  simp only [Option.map_some, awaiting.authenticate_eq]
  rw [List.filterMap_append, List.foldl_append, awaiting.identify_foldl_heed]

theorem fresh_of_login (identity : Identity)
    (fresh : FreshIds (before ++ .connect client space outbox :: (early ++ late))) :
    FreshIds (before ++ .connect client space outbox ::
      (early ++ .login client (.ok identity) :: late)) := by
  unfold FreshIds at fresh ⊢
  simpa [List.filterMap_cons, opened?] using fresh

/-- The run of a connection that sends frames of one family, and whose identity is
attached between two of them. -/
def loggedIn (observers : Observers) (before : List ServiceEvent) (client : ClientId)
    (space : Space) (outbox : Outbox) (identity : Identity) (early late : List ServiceEvent) :
    Chronicle :=
  of observers (before ++ .connect client space outbox ::
    (early ++ .login client (.ok identity) :: late))

theorem roomsOf_loggedIn (observers : Observers) (identity : Identity)
    (fresh : FreshIds (before ++ .connect client space outbox :: (early ++ late)))
    (frames : OnlyFrames client space (early ++ late)) :
    (loggedIn observers before client space outbox identity early late).gateway.registry.roomsOf
        client =
      (((early ++ late).filterMap (frameOf? client)).foldl (Seat.heed space)
        { space }).pending.toList := by
  have fresh := fresh_of_login identity fresh
  have wellFormed := wellFormed observers fresh
  have seated := seated observers fresh client
  have seat := seat_after_login (Seating.after {} before) outbox identity frames
  have awaiting := (Seat.awaiting_of_connected space).foldl_heed
    ((early ++ late).filterMap (frameOf? client))
  rw [Seating.after_append, seat, awaiting.identify_eq] at seated
  have current := Registry.currentIn_of_seatOf seated.symm
  have rooms := wellFormed.roomsOf_eq client space fun other different => by
    rw [current]
    exact if_neg different
  rw [current] at rooms
  simp only [if_true, awaiting.map_pending] at rooms
  exact rooms

theorem login_of_frames (observers : Observers) (identity : Identity)
    (fresh : FreshIds (before ++ .connect client space outbox :: early))
    (frames : OnlyFrames client space early) :
    ((of observers (before ++ .connect client space outbox :: early)).gateway.login client
      (.ok identity)).answer = true := by
  have seated := seated observers fresh
  have seat := seat_before_login (Seating.after {} before) outbox frames
  have awaiting := (Seat.awaiting_of_connected space).foldl_heed
    (early.filterMap (frameOf? client))
  have answer := seated.authentication_eq client identity
  rw [Seating.after_append, ← List.singleton_append, Seating.after_append, Seating.authenticate,
    seat] at answer
  refine answer.trans ?_
  simp [awaiting.unknown]

/-- A connection whose session is found out between two of its frames is attached the
identity, and in the end it is in the rooms that it would be in had this happened between
any other two, whatever the others do meanwhile. -/
theorem rooms_regardless_of_deferral (observers : Observers) (identity : Identity)
    {before early late earlier sooner later : List ServiceEvent} {client : ClientId}
    {space : Space} {outbox : Outbox}
    (fresh : FreshIds (before ++ .connect client space outbox :: (early ++ late)))
    (frames : OnlyFrames client space (early ++ late))
    (freshAgain : FreshIds (earlier ++ .connect client space outbox :: (sooner ++ later)))
    (framesAgain : OnlyFrames client space (sooner ++ later))
    (same : (early ++ late).filterMap (frameOf? client) =
      (sooner ++ later).filterMap (frameOf? client)) :
    ((of observers (before ++ .connect client space outbox :: early)).gateway.login client
        (.ok identity)).answer = true ∧
      (loggedIn observers before client space outbox identity early
          late).gateway.registry.roomsOf client =
        (loggedIn observers earlier client space outbox identity sooner
          later).gateway.registry.roomsOf client := by
  constructor
  · apply login_of_frames observers identity
    · apply fresh.sublist
      rw [← List.cons_append, ← List.append_assoc]
      exact List.sublist_append_left _ late
    · exact fun event member => frames event (List.mem_append_left late member)
  · rw [roomsOf_loggedIn observers identity fresh frames,
      roomsOf_loggedIn observers identity freshAgain framesAgain, same]

/-- Two requests and the withdrawal of the first, once before the answer and once after it,
while somebody else is in the room or nobody is. -/
theorem rooms_regardless_of_deferral_of_two :
    let before : List ServiceEvent :=
      [.connect ⟨"b"⟩ .app ⟨2, [], true⟩, .login ⟨"b"⟩ (.ok ⟨"Bob", "bob@x"⟩)]
    let early : List ServiceEvent :=
      [.frame ⟨"a"⟩ .app (.startEdit "1"), .frame ⟨"b"⟩ .app (.startEdit "1")]
    let late : List ServiceEvent :=
      [.frame ⟨"a"⟩ .app (.startEdit "2"), .frame ⟨"a"⟩ .app (.leaveEdit "1")]
    let sooner : List ServiceEvent :=
      [.frame ⟨"a"⟩ .app (.startEdit "1"), .frame ⟨"a"⟩ .app (.startEdit "2"),
        .frame ⟨"a"⟩ .app (.leaveEdit "1")]
    let outbox : Outbox := ⟨2, [], true⟩
    let identity : Identity := ⟨"Ann", "ann@x"⟩
    let run := fun before => loggedIn .standard before ⟨"a"⟩ .app outbox identity
    FreshIds (before ++ .connect ⟨"a"⟩ .app outbox :: (early ++ late)) ∧
      OnlyFrames ⟨"a"⟩ .app (early ++ late) ∧
      FreshIds ([] ++ .connect ⟨"a"⟩ .app outbox :: (sooner ++ [])) ∧
      OnlyFrames ⟨"a"⟩ .app (sooner ++ []) ∧
      (early ++ late).filterMap (frameOf? ⟨"a"⟩) = (sooner ++ []).filterMap (frameOf? ⟨"a"⟩) ∧
      (run [] sooner []).gateway.registry.roomsOf ⟨"a"⟩ = [⟨.app, "2"⟩] ∧
      ((of .standard (before ++ .connect ⟨"a"⟩ .app outbox :: early)).gateway.login ⟨"a"⟩
          (.ok identity)).answer = true ∧
        (run before early late).gateway.registry.roomsOf ⟨"a"⟩ =
          (run [] sooner []).gateway.registry.roomsOf ⟨"a"⟩ := by
  intro before early late sooner outbox identity run
  have fresh : FreshIds (before ++ .connect ⟨"a"⟩ .app outbox :: (early ++ late)) := by decide
  have freshAgain : FreshIds ([] ++ .connect ⟨"a"⟩ .app outbox :: (sooner ++ [])) := by decide
  have frames : OnlyFrames ⟨"a"⟩ .app (early ++ late) := by
    intro event member own
    simp only [early, late, List.cons_append, List.nil_append, List.mem_cons, List.not_mem_nil,
      or_false] at member
    rcases member with rfl | rfl | rfl | rfl
    · exact ⟨_, rfl⟩
    · simp [actor?] at own
    · exact ⟨_, rfl⟩
    · exact ⟨_, rfl⟩
  have framesAgain : OnlyFrames ⟨"a"⟩ .app (sooner ++ []) := by
    intro event member _
    simp only [sooner, List.append_nil, List.mem_cons, List.not_mem_nil, or_false] at member
    rcases member with rfl | rfl | rfl <;> exact ⟨_, rfl⟩
  have same : (early ++ late).filterMap (frameOf? ⟨"a"⟩) =
      (sooner ++ []).filterMap (frameOf? ⟨"a"⟩) := rfl
  exact ⟨fresh, frames, freshAgain, framesAgain, same, by decide,
    rooms_regardless_of_deferral .standard identity fresh frames freshAgain framesAgain same⟩

end Chronicle

end SharedEditing
