import SharedEditing.Proofs.Gateway.Frames
import SharedEditing.Proofs.Json.FreeForm
import SharedEditing.Proofs.Json.Records

/-! # Frames that are read again

What is sent is one object with the name of its event and its data. Editors, the end of an
edit and pointers are read from it as they were sent, whatever their strings hold, unless a
position holds an object whose first key marks an embedded text. -/

namespace SharedEditing

open Written

def Number.IsWord : Number → Prop
  | .integer value => -((Nat.pow 2 63 : Nat) : Int) ≤ value ∧ value ≤ (Numeral.greatestWord : Int)
  | .decimal _ => False

instance : DecidablePred Number.IsWord
  | .integer _ => inferInstanceAs (Decidable (_ ∧ _))
  | .decimal _ => inferInstanceAs (Decidable False)

theorem Number.IsWord.isKept {number : Number} (word : number.IsWord) : number.IsKept := by
  cases number with
  | integer value => exact isKept_integer word.1 word.2
  | decimal value => exact False.elim word

namespace Written

theorem membersHeight_append (front back : List (Option String × Written)) :
    membersHeight (front ++ back) = max (membersHeight front) (membersHeight back) := by
  induction front with
  | nil => exact (Nat.zero_max _).symm
  | cons member rest induction =>
      rw [List.cons_append, membersHeight, membersHeight, induction, Nat.max_assoc]

theorem ofMembers_append (front back : Members) :
    ofMembers (front ++ back) = ofMembers front ++ ofMembers back := by
  induction front with
  | nil => rfl
  | cons member rest induction => rw [List.cons_append, ofMembers, induction, ofMembers]; rfl

end Written

/-! ## Editors -/

theorem Identity.read?_written (identity : Identity) :
    Identity.read? identity.json.written = some identity := rfl

namespace OnlineEditors

theorem read?_users (users : List Identity) :
    (Json.writtenItems (users.map Identity.json)).mapM Identity.read? = some users := by
  induction users with
  | nil => rfl
  | cons identity rest induction =>
      rw [List.map_cons, Json.writtenItems, List.mapM_cons, induction, Identity.read?_written]
      rfl

theorem read?_written (editors : OnlineEditors) :
    read? editors.json.written = some editors := by
  have users := read?_users editors.users
  change ((Json.writtenItems (editors.users.map Identity.json)).mapM Identity.read?).bind _ = _
  rw [users]
  rfl

end OnlineEditors

/-! ## Pointers -/

namespace PointerEvent

variable {event : PointerEvent}

/-- A pointer whose position cannot be taken for who moved it, holds no decimal and nests as
deep as a frame may. -/
structure IsPlain (event : PointerEvent) : Prop where
  sorted : event.position.Sorted
  nested : ∀ members ∈ Json.memberObjects event.position, members.Sorted
  user : event.position.get? userKey = none
  socket : event.position.get? socketKey = none
  words : ∀ number ∈ Json.memberNumbers event.position, number.IsWord
  /-- The frame itself is open around the event. -/
  shallow : (Written.ofValue event.json).height < nestingLimit

def IsMarked (event : PointerEvent) : Prop :=
  ∃ members ∈ Json.memberObjects event.position, members.IsMarked

def sender (event : PointerEvent) : Members :=
  (event.user.map fun identity => (userKey, identity.json)).toList ++
    (event.socketId.map fun id => (socketKey, .string id)).toList

theorem members_eq (event : PointerEvent) : event.members = event.sender ++ event.position := by
  rcases event with ⟨_ | _, _ | _, position⟩ <;> rfl

theorem sentMembers_eq (event : PointerEvent) :
    event.sentMembers =
      (event.sender.map fun member => (member.1, member.2.written)) ++
        event.position.map fun member => (member.1, member.2.written) := by
  rw [sentMembers, members_eq, List.map_append]

namespace IsPlain

variable (plain : event.IsPlain)

include plain

theorem occurrences_user :
    occurrences event.sentMembers userKey =
      (event.user.map fun identity => identity.json.written).toList := by
  rw [sentMembers_eq, occurrences_append, occurrences_written plain.sorted, plain.user]
  rcases event with ⟨_ | _, _ | _, position⟩ <;> rfl

theorem occurrences_socket :
    occurrences event.sentMembers socketKey =
      (event.socketId.map fun id => .string (some id)).toList := by
  rw [sentMembers_eq, occurrences_append, occurrences_written plain.sorted, plain.socket]
  rcases event with ⟨_ | _, _ | _, position⟩ <;> rfl

theorem positionOf_sentMembers : positionOf event.sentMembers = ofMembers event.position := by
  have kept (number : Number) (member : number ∈ Json.memberNumbers event.position) :
      number.IsKept := (plain.words number member).isKept
  have absent {key : String} (nothing : event.position.get? key = none)
      (member : String × Json) (present : member ∈ event.position) : member.1 ≠ key := by
    rw [Members.get?, Option.map_eq_none_iff] at nothing
    simpa using List.find?_eq_none.mp nothing member present
  have sender : ((event.sender.map fun member => (member.1, member.2.written)).filter
      fun member => isPosition member.1) = [] := by
    rcases event with ⟨_ | _, _ | _, position⟩ <;> rfl
  have position : ((event.position.map fun member => (member.1, member.2.written)).filter
      fun member => isPosition member.1) =
        event.position.map fun member => (member.1, member.2.written) := by
    refine List.filter_eq_self.mpr (List.forall_mem_map.mpr fun member present => ?_)
    exact isPosition_iff.mpr
      ⟨absent plain.user member present, absent plain.socket member present⟩
  rw [← (Json.writtenMembers_eq_ofMembers_iff event.position).mpr kept, Json.writtenMembers_eq,
    positionOf, sentMembers_eq, List.filter_append, sender, position]
  rfl

theorem height_position :
    membersHeight (ofMembers event.position) < ClientMessage.payloadLevels := by
  have shallow := plain.shallow
  rw [json, ofValue, height, members_eq, ofMembers_append, membersHeight_append] at shallow
  rw [ClientMessage.payloadLevels]
  omega

/-- Only the position may be read as another one. -/
theorem read?_written :
    read? ClientMessage.payloadLevels event.json.written =
      (freeMembers? (ofMembers event.position)).map fun position =>
        ⟨event.user, event.socketId, position⟩ := by
  have user : optional? Identity.read? (event.user.map fun identity => identity.json.written) =
      some event.user := by
    cases event.user <;> rfl
  have socket : optional? string? (event.socketId.map fun id => .string (some id)) =
      some event.socketId := by
    cases event.socketId <;> rfl
  rw [written_json, read?, Option.map_eq_bind]
  simp only [keyed?_ofKeyed, member?_noValue_eq_some_iff.mpr plain.occurrences_user, user,
    member?_noValue_eq_some_iff.mpr plain.occurrences_socket, socket, plain.positionOf_sentMembers,
    Option.bind_eq_bind, Option.bind_some, if_pos plain.height_position]
  rfl

theorem read?_written_iff :
    read? ClientMessage.payloadLevels event.json.written = some event ↔ ¬event.IsMarked := by
  have position : read? ClientMessage.payloadLevels event.json.written = some event ↔
      freeMembers? (ofMembers event.position) = some event.position := by
    rw [plain.read?_written]
    rcases event with ⟨user, socketId, position⟩
    cases freeMembers? (ofMembers position) <;> simp
  rw [position, freeMembers?_ofMembers_iff plain.sorted plain.nested, IsMarked]
  push Not
  rfl

end IsPlain

end PointerEvent

/-! ## Frames -/

namespace ClientMessage

theorem ofText?_frame (message : ServerMessage) :
    ofText? message.frame = ofPayload? message.eventName message.data.written := by
  rw [ofText?, ServerMessage.ofText?_frame]
  rfl

theorem ofPayload?_mousePointer (data : Written) :
    ofPayload? mousePointerEvent data =
      (PointerEvent.read? payloadLevels data).map mousePointer := by
  rw [ofPayload?, if_neg (by decide), if_neg (by decide), if_pos rfl, Option.map_eq_bind]
  rfl

end ClientMessage

namespace ServerMessage

def IsPlain : ServerMessage → Prop
  | onlineEditors _ => True
  | leaveEdit _ => True
  | mousePointer event => event.IsPlain
  | change _ => False

def IsMarked : ServerMessage → Prop
  | mousePointer event => event.IsMarked
  | _ => False

/-- The data of a message is read as what was sent. The end of an edit and a pointer are also
read from the whole frame, which is one that a client may send. -/
def IsReadFrom (data : Written) : ServerMessage → Prop
  | onlineEditors editors => OnlineEditors.read? data = some editors
  | leaveEdit connection =>
      data.string? = some connection ∧
        ClientMessage.ofText? (leaveEdit connection).frame = some (.leaveEdit connection)
  | mousePointer event =>
      PointerEvent.read? ClientMessage.payloadLevels data = some event ∧
        ClientMessage.ofText? (mousePointer event).frame = some (.mousePointer event)
  | change _ => False

/-- A frame is an object with the name of its event and its data. It is read as what was sent
exactly when no object in a position begins with the key that marks an embedded text. -/
theorem frames_are_read (message : ServerMessage) (plain : message.IsPlain) :
    ∃ data, Written.ofText? message.frame =
        some (.object [(some "event", .string (some message.eventName)), (some "data", data)]) ∧
      (message.IsReadFrom data ↔ ¬message.IsMarked) := by
  refine ⟨message.data.written, message.ofText?_frame, ?_⟩
  cases message with
  | onlineEditors editors => exact iff_of_true editors.read?_written id
  | leaveEdit connection => exact iff_of_true ⟨rfl, ClientMessage.ofText?_frame _⟩ id
  | mousePointer event =>
      rw [IsMarked, ← PointerEvent.IsPlain.read?_written_iff plain, IsReadFrom,
        ClientMessage.ofText?_frame, eventName, data, ClientMessage.ofPayload?_mousePointer]
      cases PointerEvent.read? ClientMessage.payloadLevels event.json.written <;> simp
  | change notice => exact False.elim plain

/-- Strings may hold what ends a string, and outside of nested objects no key is a mark. -/
theorem frames_are_read_of_quotes :
    let event : PointerEvent := ⟨some ⟨"Ann \"A\"", "ann@x"⟩, none,
      [(embeddedKey, .number (.integer (-1))),
        ("note", .array [.string "\x01\\\"\x7d😀", .object [("x", .null), ("y", .bool true)]])]⟩
    event.IsPlain ∧ ¬event.IsMarked ∧
      ClientMessage.ofText? (mousePointer event).frame = some (.mousePointer event) := by
  intro event
  have plain : event.IsPlain := by
    constructor
    case sorted => decide
    case nested => decide
    case user => rfl
    case socket => rfl
    case words => decide
    case shallow => decide
  have unmarked : ¬event.IsMarked := by
    unfold PointerEvent.IsMarked
    decide
  rcases frames_are_read (mousePointer event) plain with ⟨data, _, reads⟩
  exact ⟨plain, unmarked, (reads.mpr unmarked).2⟩

/-- A position that a client may send. Its keys are sorted when it is passed on, and what is
sent is then refused by the reader that took it. -/
theorem marked_frame_refused :
    let text := "\x7b\"event\":\"collab:mouse_pointer\",\"data\":\x7b\"p\":\x7b\"b\":1," ++
      "\"$serde_json::private::RawValue\":\"5\"\x7d\x7d\x7d"
    ∃ received, ClientMessage.ofText? text = some (.mousePointer received) ∧
      let sent := received.stamped ⟨"Ann", "ann@x"⟩ "a"
      sent.IsPlain ∧ (mousePointer sent).frame =
        "\x7b\"event\":\"collab:mouse_pointer\",\"data\":\x7b\"user\":" ++
          "\x7b\"name\":\"Ann\",\"email\":\"ann@x\"\x7d,\"socketId\":\"a\"," ++
          "\"p\":\x7b\"$serde_json::private::RawValue\":\"5\",\"b\":1\x7d\x7d\x7d" ∧
      ClientMessage.ofText? (mousePointer sent).frame = none := by
  intro text
  let received : PointerEvent := ⟨none, none,
    [("p", .object [(embeddedKey, .string "5"), ("b", .number (.integer 1))])]⟩
  have written : Written.ofText? text =
      some (.object [(some "event", .string (some "collab:mouse_pointer")),
        (some "data", .object [(some "p", .object [(some "b", .number (some (.integer 1))),
          (some embeddedKey, .string (some "5"))])])]) := by
    simp only [text, Written.ofText?, String.reduceToList, String.reduceAppend]
    rfl
  refine ⟨received, ?accepted, ?plain, ?sent, ?refused⟩
  case accepted =>
    rw [ClientMessage.ofText?, written]
    rfl
  case plain =>
    constructor
    case sorted => decide
    case nested => decide
    case user => rfl
    case socket => rfl
    case words => decide
    case shallow => decide
  case sent => decide +kernel
  case refused =>
    rw [ClientMessage.ofText?_frame]
    rfl

end ServerMessage

end SharedEditing
