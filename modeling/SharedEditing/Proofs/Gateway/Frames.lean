import SharedEditing.Proofs.Frame.Buffering
import SharedEditing.Proofs.Gateway.Pointers
import SharedEditing.Proofs.Json.Reading

/-! # Pointer frames

The text of a pointer that is passed on names its sender, once, and otherwise has the members
that the received text has. What the received text claims of its sender has no part in it. -/

namespace SharedEditing

open Written

/-! ## What a received text says -/

namespace PointerEvent

variable {event : PointerEvent} {data : Written}

def readMembers? : Written → Option (List (String × Written))
  | .object members => keyed? members
  | _ => none

theorem position_of_read? {levels : Nat} (read : read? levels data = some event) :
    ∃ received, readMembers? data = some received ∧
      freeMembers? (positionOf received) = some event.position := by
  cases data with
  | object members =>
      simp only [read?, Option.bind_eq_bind, Option.bind_eq_some_iff] at read
      rcases read with ⟨received, keyed, _, _, user, _, _, _, socket, _, read⟩
      split at read
      · simp only [Option.bind_eq_some_iff, Option.pure_def, Option.some.injEq] at read
        rcases read with ⟨position, free, rfl⟩
        exact ⟨received, keyed, free⟩
      · cases read
  | _ => cases read

end PointerEvent

namespace ClientMessage

variable {event : PointerEvent} {data written : Written} {text : String}

def payload? : Written → Option Written
  | .object members => do
      let members ← keyed? members
      match occurrences members "data" with
      | [data] => return data
      | _ => none
  | .array [_, data] => some data
  | _ => none

def payloadMembers? (text : String) : Option (List (String × Written)) :=
  ((Written.ofText? text).bind payload?).bind PointerEvent.readMembers?

theorem read?_of_ofPayload? {name : String}
    (read : ofPayload? name data = some (.mousePointer event)) :
    PointerEvent.read? payloadLevels data = some event := by
  rw [ofPayload?] at read
  simp only [Option.bind_eq_bind, Option.pure_def] at read
  split_ifs at read <;> rcases Option.bind_eq_some_iff.mp read with ⟨payload, found, same⟩
  · cases same
  · cases same
  · cases same
    exact found

theorem payload_of_branch {members : List (String × Written)} {event : Written}
    {message : ClientMessage}
    (read : (if payloadFirst members then
        (Buffered.ofWritten? payloadLevels data).bind fun data =>
          event.choice?.bind fun name => ofBuffered? name data
      else event.choice?.bind fun name => ofPayload? name data) = some message) :
    ∃ name, event.choice? = some name ∧ ofPayload? name data = some message := by
  split_ifs at read with ahead
  · rcases Option.bind_eq_some_iff.mp read with ⟨kept, keeps, read⟩
    rcases Option.bind_eq_some_iff.mp read with ⟨name, named, payload⟩
    exact ⟨name, named, (ofBuffered?_of_keeps keeps).symm.trans payload⟩
  · exact Option.bind_eq_some_iff.mp read

theorem payload?_of_ofWritten? (read : ofWritten? written = some (.mousePointer event)) :
    ∃ data, payload? written = some data ∧
      PointerEvent.read? payloadLevels data = some event := by
  rw [ofWritten?.eq_def] at read
  split at read
  · rcases Option.bind_eq_some_iff.mp read with ⟨members, keyed, message⟩
    split at message
    · rename_i event data named found
      rcases payload_of_branch message with ⟨name, _, payload⟩
      exact ⟨data, by rw [payload?, keyed]; simp [found], read?_of_ofPayload? payload⟩
    · cases message
  · exact ⟨_, rfl, read?_of_ofPayload? read⟩
  · cases read

theorem position_of_ofText? (accepted : ofText? text = some (.mousePointer event)) :
    ∃ received, payloadMembers? text = some received ∧
      freeMembers? (PointerEvent.positionOf received) = some event.position := by
  rcases Option.bind_eq_some_iff.mp accepted with ⟨written, read, message⟩
  rcases payload?_of_ofWritten? message with ⟨data, payload, pointer⟩
  rcases PointerEvent.position_of_read? pointer with ⟨received, members, free⟩
  refine ⟨received, ?_, free⟩
  rw [payloadMembers?, read, Option.bind_some, payload, Option.bind_some, members]

end ClientMessage

/-! ## What the text of a pointer says -/

theorem ServerMessage.ofText?_frame (message : ServerMessage) :
    Written.ofText? message.frame =
      some (.object [(some "event", .string (some message.eventName)),
        (some "data", message.data.written)]) :=
  Written.ofText?_text _

theorem Json.writtenMembers_eq (members : Members) :
    writtenMembers members = ofKeyed (members.map fun member => (member.1, member.2.written)) := by
  induction members with
  | nil => rfl
  | cons member rest induction =>
      rw [writtenMembers, induction]
      rfl

namespace PointerEvent

variable {event other : PointerEvent} {received : List (String × Written)} {key : String}

def sentMembers (event : PointerEvent) : List (String × Written) :=
  event.members.map fun member => (member.1, member.2.written)

theorem written_json (event : PointerEvent) :
    event.json.written = .object (ofKeyed event.sentMembers) := by
  rw [json, Json.written, Json.writtenMembers_eq, sentMembers]

/-- The members that are sent for a pointer that was received: once who sent it, once from
where, and for every other key the last value that was received under it. -/
structure CarriesOn (received : List (String × Written)) (identity : Identity) (client : ClientId)
    (sent : List (String × Written)) : Prop where
  user : occurrences sent userKey =
    [.object [(some "name", .string (some identity.name)),
      (some "email", .string (some identity.email))]]
  socket : occurrences sent socketKey = [.string (some client.text)]
  absent : ∀ key, key ≠ userKey → key ≠ socketKey →
    occurrences received key = [] → occurrences sent key = []
  present : ∀ key, key ≠ userKey → key ≠ socketKey →
    ∀ last, (occurrences received key).getLast? = some last →
      ∃ value, last.value? = some value ∧ occurrences sent key = [value.written] ∧
        ((∀ number ∈ value.numbers, number.IsKept) → occurrences sent key = [.ofValue value])

theorem occurrences_position (received : List (String × Written)) (key : String) :
    occurrences (received.filter fun member => isPosition member.1) key =
      if key = userKey ∨ key = socketKey then [] else occurrences received key := by
  rw [occurrences, List.filter_filter]
  split_ifs with claimed
  · have none : (received.filter fun member =>
        member.1 == key && isPosition member.1) = [] := by
      apply List.filter_eq_nil_iff.mpr
      rintro member _ kept
      simp only [Bool.and_eq_true, beq_iff_eq, isPosition_iff] at kept
      rcases kept with ⟨rfl, user, socket⟩
      exact claimed.elim user socket
    rw [none, List.map_nil]
  · rw [occurrences]
    refine congrArg (List.map Prod.snd) (List.filter_congr fun member _ => ?_)
    by_cases same : member.1 = key
    · simp [same, isPosition_iff.mpr (not_or.mp claimed)]
    · simp [same]

theorem occurrences_written {position : Members} (sorted : position.Sorted) (key : String) :
    occurrences (position.map fun member => (member.1, member.2.written)) key =
      ((position.get? key).map Json.written).toList := by
  rw [Option.toList_map, ← Members.filter_key_of_sorted sorted, occurrences, List.filter_map,
    List.map_map, List.map_map]
  rfl

theorem occurrences_sent (sorted : event.position.Sorted) (identity : Identity)
    (client : ClientId) (key : String) :
    occurrences (event.stamped identity client.text).sentMembers key =
      (if key = userKey then [identity.json.written] else []) ++
        ((if key = socketKey then [.string (some client.text)] else []) ++
          ((event.position.get? key).map Json.written).toList) := by
  have members : (event.stamped identity client.text).sentMembers =
      (userKey, identity.json.written) :: (socketKey, .string (some client.text)) ::
        event.position.map fun member => (member.1, member.2.written) := rfl
  rw [members, occurrences_cons, occurrences_cons, occurrences_written sorted]

theorem carriesOn_stamped (free : freeMembers? (positionOf received) = some event.position)
    (identity : Identity) (client : ClientId) :
    CarriesOn received identity client (event.stamped identity client.text).sentMembers := by
  have sorted : event.position.Sorted := by
    rcases Option.map_eq_some_iff.mp free with ⟨values, _, same⟩
    rw [← same]
    exact Members.sorted_ofList values
  have found (key : String) := get?_freeMembers? free key
  simp only [occurrences_position] at found
  -- Nothing that is received under the sender's two keys becomes position, so that what is
  -- stamped stands there alone.
  have claimed (key : String) (isClaim : key = userKey ∨ key = socketKey) :
      event.position.get? key = none := by
    simpa [isClaim] using found key
  have others (key : String) (user : key ≠ userKey) (socket : key ≠ socketKey) :
      occurrences (event.stamped identity client.text).sentMembers key =
        ((event.position.get? key).map Json.written).toList := by
    rw [occurrences_sent sorted, if_neg user, if_neg socket]
    rfl
  constructor
  case user =>
    rw [occurrences_sent sorted, claimed userKey (.inl rfl)]
    rfl
  case socket =>
    rw [occurrences_sent sorted, claimed socketKey (.inr rfl)]
    rfl
  case absent =>
    intro key user socket nothing
    have free := found key
    rw [if_neg (not_or.mpr ⟨user, socket⟩), nothing] at free
    rw [others key user socket, Option.map_eq_none_iff.mp free]
    rfl
  case present =>
    intro key user socket last lasts
    have free := found key
    rw [if_neg (not_or.mpr ⟨user, socket⟩), lasts] at free
    rcases Option.map_eq_some_iff.mp free with ⟨value, got, same⟩
    have sent : occurrences (event.stamped identity client.text).sentMembers key =
        [value.written] := by
      rw [others key user socket, got]
      rfl
    refine ⟨value, same.symm, sent, fun kept => ?_⟩
    rw [sent, (Json.written_eq_ofValue_iff value).mpr kept]

end PointerEvent

/-! ## What is passed on -/

namespace Gateway

open ClientMessage

variable {client : ClientId} {event : PointerEvent}

theorem relay_of_position {other : PointerEvent} (same : other.position = event.position)
    (gateway : Gateway) (client : ClientId) :
    gateway.relay client other = gateway.relay client event := by
  have stamps (identity : Identity) :
      other.stamped identity client.text = event.stamped identity client.text := by
    rw [PointerEvent.stamped, PointerEvent.stamped, same]
  simp only [relay, stampedPointer, stamps]

theorem relay_of_dispatch {gateway : Gateway} {space : Space} {posting : Posting}
    (posted : posting ∈ (gateway.dispatch client space (.mousePointer event)).postings) :
    posting ∈ (gateway.relay client event).postings := by
  cases space with
  | page => exact posted
  | app => cases posted

/-- The text of a pointer that was received is passed on under the name of its sender, whoever
it names itself, and with every other member. -/
structure Unforged (gateway : Gateway) (client : ClientId) (space : Space) (text : String)
    (event : PointerEvent) (received : List (String × Written)) : Prop where
  members : payloadMembers? text = some received
  carried : ∀ posting ∈ (gateway.dispatch client space (.mousePointer event)).postings,
    ∃ identity sent, gateway.registry.identityOf client = some identity ∧
      Written.ofText? posting.letter.message.frame =
        some (.object [(some "event", .string (some mousePointerEvent)),
          (some "data", .object (ofKeyed sent))]) ∧
      PointerEvent.CarriesOn received identity client sent
  /-- Texts that differ in whom they name are passed on alike. -/
  blind : ∀ otherText other claimed, ClientMessage.ofText? otherText = some (.mousePointer other) →
    payloadMembers? otherText = some claimed →
    PointerEvent.positionOf claimed = PointerEvent.positionOf received →
    gateway.dispatch client space (.mousePointer other) =
      gateway.dispatch client space (.mousePointer event)

theorem pointer_frames_unforged (gateway : Gateway) (client : ClientId) (space : Space)
    {text : String} {event : PointerEvent}
    (accepted : ClientMessage.ofText? text = some (.mousePointer event)) :
    ∃ received, gateway.Unforged client space text event received := by
  rcases position_of_ofText? accepted with ⟨received, members, free⟩
  refine ⟨received, members, ?carried, ?blind⟩
  case carried =>
    intro posting posted
    rcases stamped_of_relayed (relay_of_dispatch posted) with ⟨identity, known, content⟩
    have carried := PointerEvent.carriesOn_stamped free identity client
    refine ⟨identity, _, known, ?_, carried⟩
    rw [content, ServerMessage.ofText?_frame, ServerMessage.data, PointerEvent.written_json]
    rfl
  case blind =>
    intro otherText other claimed otherAccepted otherMembers alike
    rcases position_of_ofText? otherAccepted with ⟨again, sameMembers, otherFree⟩
    rw [otherMembers] at sameMembers
    cases sameMembers
    rw [alike, free] at otherFree
    have same := relay_of_position (Option.some.inj otherFree).symm gateway client
    cases space with
    | page => rw [dispatch, dispatch, same]
    | app => rfl

/-! ## Two people on one page -/

def pageOfTwo : Gateway :=
  (Chronicle.of .standard
    [.connect ⟨"a"⟩ .page ⟨8, [], true⟩, .connect ⟨"b"⟩ .page ⟨8, [], true⟩,
      .login ⟨"a"⟩ (.ok ⟨"Ann", "ann@x"⟩), .login ⟨"b"⟩ (.ok ⟨"Bob", "bob@x"⟩),
      .frame ⟨"a"⟩ .page (.startEdit "1"), .frame ⟨"b"⟩ .page (.startEdit "1")]).gateway

theorem postings_pageOfTwo (event : PointerEvent) :
    (pageOfTwo.dispatch ⟨"a"⟩ .page (.mousePointer event)).postings =
      [⟨⟨⟨"b"⟩, .mousePointer (event.stamped ⟨"Ann", "ann@x"⟩ "a")⟩, true⟩] := rfl

/-- A pointer claims to come from somebody else, and has one key twice. -/
theorem pointer_frames_unforged_of_forgery :
    let text := "\x7b\"data\":\x7b\"user\":[\"Eve\",\"eve@x\"],\"x\":1,\"socketId\":\"b\"," ++
      "\"x\":2\x7d,\"event\":\"collab:mouse_pointer\"\x7d"
    let event : PointerEvent := ⟨some ⟨"Eve", "eve@x"⟩, some "b", [("x", .number (.integer 2))]⟩
    ClientMessage.ofText? text = some (.mousePointer event) ∧
      ((pageOfTwo.dispatch ⟨"a"⟩ .page (.mousePointer event)).postings.map fun posting =>
        posting.letter.message.frame) =
          ["\x7b\"event\":\"collab:mouse_pointer\",\"data\":\x7b\"user\":" ++
            "\x7b\"name\":\"Ann\",\"email\":\"ann@x\"\x7d,\"socketId\":\"a\",\"x\":2\x7d\x7d"] ∧
      ∃ received, pageOfTwo.Unforged ⟨"a"⟩ .page text event received := by
  intro text event
  have read : Written.ofText? text =
      some (.object [(some "data", .object [(some "user", .array [.string (some "Eve"),
          .string (some "eve@x")]), (some "x", .number (some (.integer 1))),
          (some "socketId", .string (some "b")), (some "x", .number (some (.integer 2)))]),
        (some "event", .string (some "collab:mouse_pointer"))]) := by
    simp only [text, Written.ofText?, String.reduceToList, String.reduceAppend]
    rfl
  have accepted : ClientMessage.ofText? text = some (.mousePointer event) := by
    rw [ClientMessage.ofText?, read]
    rfl
  exact ⟨accepted, by decide +kernel, pointer_frames_unforged pageOfTwo ⟨"a"⟩ .page accepted⟩

/-- A decimal is rounded when it is read, and again when it is read from what was sent, so the
peers of a sender are sent another number than the sender wrote. -/
theorem decimal_altered :
    let text := "\x7b\"event\":\"collab:mouse_pointer\",\"data\":" ++
      "\x7b\"x\":18.027577092981411\x7d\x7d"
    ∃ event received sent, ClientMessage.ofText? text = some (.mousePointer event) ∧
      payloadMembers? text = some [("x", received)] ∧
      ∃ posting ∈ (pageOfTwo.dispatch ⟨"a"⟩ .page (.mousePointer event)).postings,
        posting.letter.message.frame =
          "\x7b\"event\":\"collab:mouse_pointer\",\"data\":\x7b\"user\":" ++
            "\x7b\"name\":\"Ann\",\"email\":\"ann@x\"\x7d,\"socketId\":\"a\"," ++
            "\"x\":18.027577092981414\x7d\x7d" ∧
        (payloadMembers? posting.letter.message.frame).map (occurrences · "x") = some [sent] ∧
        sent ≠ received := by
  intro text
  let read : Number := .decimal ⟨false, 5074311842396499, -48⟩
  let readAgain : Number := .decimal ⟨false, 5074311842396500, -48⟩
  rcases Numeral.number?_drifts with ⟨first, second⟩
  have written : Written.ofText? text =
      some (.object [(some "event", .string (some "collab:mouse_pointer")),
        (some "data", .object [(some "x", .number (some read))])]) := by
    rw [← first]
    simp only [text, Written.ofText?, String.reduceToList, String.reduceAppend]
    rfl
  let event : PointerEvent := ⟨none, none, [("x", .number read)]⟩
  have accepted : ClientMessage.ofText? text = some (.mousePointer event) := by
    rw [ClientMessage.ofText?, written]
    rfl
  refine ⟨event, .number (some read), .number (some readAgain), accepted, ?received, ?_⟩
  case received =>
    rw [payloadMembers?, written]
    rfl
  rw [postings_pageOfTwo]
  refine ⟨_, List.mem_singleton_self _, ?text, ?sent, ?other⟩
  case text => decide +kernel
  case sent =>
    rw [payloadMembers?, ServerMessage.ofText?_frame]
    exact congrArg (fun number => some [Written.number number]) second
  case other =>
    intro same
    injection same with same
    revert same
    decide

end Gateway

end SharedEditing
