import SharedEditing.Proofs.Frame.Payloads

/-! # Spellings of a frame

A name and a payload may be written in either order among other members, or as an array of the
two. Whatever the payload, as long as it can be read, all spellings are refused or all are read
as one message. -/

namespace SharedEditing

namespace Written

variable {embedded? : String → Option Json}

theorem membersReadable_of_embeddedText? {members : List (Option String × Written)}
    {text : String} (marked : isEmbedding members = true)
    (embedded : embeddedText? members = some text) : membersReadable members = true := by
  unfold embeddedText? at embedded
  split at embedded
  · rename_i key content
    subst embedded
    cases key with
    | none => cases marked
    | some key => rfl
  · cases embedded

mutual

theorem isReadable_of_valueWith? : ∀ {written : Written} {value : Json},
    valueWith? embedded? written = some value → isReadable written = true
  | .null, _, _ => rfl
  | .bool _, _, _ => rfl
  | .number (some _), _, _ => rfl
  | .string (some _), _, _ => rfl
  | .array items, _, read => by
      rw [valueWith?] at read
      rcases Option.map_eq_some_iff.mp read with ⟨values, valued, _⟩
      exact itemsReadable_of_itemValues? valued
  | .object members, _, read => by
      rw [valueWith?] at read
      split_ifs at read with marked
      · rcases Option.bind_eq_some_iff.mp read with ⟨text, embedded, _⟩
        exact membersReadable_of_embeddedText? marked embedded
      · rcases Option.map_eq_some_iff.mp read with ⟨values, valued, _⟩
        exact membersReadable_of_memberValues? valued

theorem itemsReadable_of_itemValues? : ∀ {items : List Written} {values : List Json},
    itemValues? embedded? items = some values → itemsReadable items = true
  | [], _, _ => rfl
  | item :: rest, _, read => by
      rw [itemValues?] at read
      split at read
      · rename_i first others
        rw [itemsReadable, isReadable_of_valueWith? first, itemsReadable_of_itemValues? others]
        rfl
      · cases read

theorem membersReadable_of_memberValues? : ∀ {members : List (Option String × Written)}
    {values : List (String × Json)}, memberValues? embedded? members = some values →
      membersReadable members = true
  | [], _, _ => rfl
  | (key, item) :: rest, _, read => by
      rw [memberValues?.eq_def] at read
      dsimp only at read
      split at read
      · rename_i key value values named first others
        rw [membersReadable, isReadable_of_valueWith? first,
          membersReadable_of_memberValues? others]
        rfl
      · cases read

end

theorem occurrences_of_unused {members : List (String × Written)} {key : String}
    (unused : ∀ member ∈ members, member.1 ≠ key) : occurrences members key = [] := by
  have none : (members.filter fun member => member.1 == key) = [] :=
    List.filter_eq_nil_iff.mpr fun member present => by simpa using unused member present
  rw [occurrences, none, List.map_nil]

end Written

open Written PointerEvent

namespace ClientMessage

variable {name : String} {data written : Written} {message : ClientMessage}

/-- Members that are passed over in a frame. -/
def Extra (members : List (String × Written)) : Prop :=
  ∀ member ∈ members, member.1 ≠ "event" ∧ member.1 ≠ "data"

instance : DecidablePred Extra := fun _ => inferInstanceAs (Decidable (∀ _ ∈ _, _))

/-- The ways to write a name, as a string, and a payload. -/
inductive Spells (name : String) (data : Written) : Written → Prop where
  | nameFirst {before between after : List (String × Written)} (ahead : Extra before)
      (inside : Extra between) (behind : Extra after) :
      Spells name data (.object (ofKeyed (before ++ ("event", .string (some name)) ::
        (between ++ ("data", data) :: after))))
  | payloadFirst {before between after : List (String × Written)} (ahead : Extra before)
      (inside : Extra between) (behind : Extra after) :
      Spells name data (.object (ofKeyed (before ++ ("data", data) ::
        (between ++ ("event", .string (some name)) :: after))))
  | pair : Spells name data (.array [.string (some name), data])

/-- A frame has a name and a payload once each. In an object the name may be written in either
way that a choice is written. -/
inductive Carries (name : String) (data : Written) : Written → Prop where
  | object {members : List (String × Written)} {event : Written}
      (events : occurrences members "event" = [event]) (named : event.choice? = some name)
      (payloads : occurrences members "data" = [data]) :
      Carries name data (.object (ofKeyed members))
  | pair : Carries name data (.array [.string (some name), data])

theorem Spells.carries (spells : Spells name data written) : Carries name data written := by
  have unused {members : List (String × Written)} (extra : Extra members) :
      occurrences members "event" = [] ∧ occurrences members "data" = [] :=
    ⟨occurrences_of_unused fun member present => (extra member present).1,
      occurrences_of_unused fun member present => (extra member present).2⟩
  cases spells with
  | nameFirst ahead inside behind =>
      refine @Carries.object _ _ _ (.string (some name)) ?_ rfl ?_ <;>
        simp [occurrences_append, occurrences_cons, unused ahead, unused inside, unused behind]
  | payloadFirst ahead inside behind =>
      refine @Carries.object _ _ _ (.string (some name)) ?_ rfl ?_ <;>
        simp [occurrences_append, occurrences_cons, unused ahead, unused inside, unused behind]
  | pair => exact .pair

/-- A payload that can be read ahead is read alike before its name and after it. -/
theorem Carries.ofWritten?_eq (carries : Carries name data written) {kept : Buffered}
    (keeps : Buffered.Keeps payloadLevels data kept) :
    ofWritten? written = ofPayload? name data := by
  cases carries with
  | @object members event events named payloads =>
      have ahead : ∀ name, ofBuffered? name kept = ofPayload? name data :=
        fun _ => ofBuffered?_of_keeps keeps
      rw [Buffered.Keeps] at keeps
      simp only [ofWritten?, keyed?_ofKeyed, Option.bind_eq_bind, Option.bind_some, events,
        payloads, named, keeps, ahead, ite_self]
  | pair => rfl

theorem exists_carries (read : ofWritten? written = some message) :
    ∃ name data, Carries name data written ∧ Says name data message := by
  rw [ofWritten?.eq_def] at read
  split at read
  · rcases Option.bind_eq_some_iff.mp read with ⟨members, keyed, accepted⟩
    rw [keyed?_eq_some_iff] at keyed
    subst keyed
    split at accepted
    · rename_i event data events payloads
      rcases payload_of_branch accepted with ⟨name, named, payload⟩
      exact ⟨name, data, .object events named payloads, ofPayload?_eq_some_iff.mp payload⟩
    · cases accepted
  · exact ⟨_, _, .pair, ofPayload?_eq_some_iff.mp read⟩
  · cases read

/-- A payload that stands for a value, and nests no deeper than a frame may. -/
structure IsFree (data : Written) : Prop where
  value : data.value? ≠ none
  shallow : data.height ≤ payloadLevels

theorem IsFree.exists_keeps (free : IsFree data) :
    ∃ kept, Buffered.Keeps payloadLevels data kept := by
  rcases Option.ne_none_iff_exists'.mp free.value with ⟨value, valued⟩
  exact Buffered.exists_keeps (isReadable_of_valueWith? valued) free.shallow

def IsSpelling (name : String) (data : Written) (text : String) : Prop :=
  ∃ written, Written.ofText? text = some written ∧ Spells name data written

/-- All spellings of a name and a payload are refused, or all are read as what the two say.
Nothing else is read from any text than what its name and its payload say. -/
theorem spellings_agree :
    (∀ name data, IsFree data →
      (∀ text other, IsSpelling name data text → IsSpelling name data other →
        ofText? text = ofText? other) ∧
      ∀ text message, IsSpelling name data text →
        (ofText? text = some message ↔ Says name data message)) ∧
    ∀ text message, ofText? text = some message →
      ∃ written name data, Written.ofText? text = some written ∧ Carries name data written ∧
        Says name data message := by
  have reads {name : String} {data : Written} {text : String} (free : IsFree data)
      (spelling : IsSpelling name data text) : ofText? text = ofPayload? name data := by
    rcases spelling with ⟨written, read, spells⟩
    rcases free.exists_keeps with ⟨kept, keeps⟩
    rw [ofText?, read, Option.bind_some, spells.carries.ofWritten?_eq keeps]
  refine ⟨fun name data free => ⟨fun text other left right => ?alike,
    fun text message spelling => ?accepted⟩, fun text message accepted => ?carried⟩
  case alike => rw [reads free left, reads free right]
  case accepted => rw [reads free spelling, ofPayload?_eq_some_iff]
  case carried =>
    rcases Option.bind_eq_some_iff.mp accepted with ⟨written, read, message⟩
    rcases exists_carries message with ⟨name, data, carries, said⟩
    exact ⟨written, name, data, read, carries, said⟩

/-- An unsorted position with a key twice, before its name and in an array. -/
theorem spellings_agree_of_pointer :
    let payload := "\x7b\"y\":1,\"user\":[\"Ann\",\"ann@x\"],\"x\":[],\"socketId\":null," ++
      "\"y\":\x7b\x7d\x7d"
    let text := "\x7b\"id\":7,\"data\":" ++ payload ++ ",\"event\":\"collab:mouse_pointer\"\x7d"
    let other := "[\"collab:mouse_pointer\"," ++ payload ++ "]"
    let message := mousePointer
      ⟨some ⟨"Ann", "ann@x"⟩, none, [("x", .array []), ("y", .object [])]⟩
    ∃ data, IsFree data ∧ IsSpelling mousePointerEvent data text ∧
      IsSpelling mousePointerEvent data other ∧ Says mousePointerEvent data message ∧
      ofText? text = some message ∧ ofText? other = some message := by
  intro payload text other message
  let members : List (String × Written) :=
    [("y", .number (some (.integer 1))),
      ("user", .array [.string (some "Ann"), .string (some "ann@x")]), ("x", .array []),
      ("socketId", .null), ("y", .object [])]
  let data : Written := .object (ofKeyed members)
  have free : IsFree data := ⟨nofun, by decide⟩
  have spelling : IsSpelling mousePointerEvent data text := by
    refine ⟨_, ?_, @Spells.payloadFirst _ _ [("id", .number (some (.integer 7)))] [] []
      (by decide) (by decide) (by decide)⟩
    simp only [text, payload, Written.ofText?, String.reduceToList, String.reduceAppend]
    rfl
  have paired : IsSpelling mousePointerEvent data other := by
    refine ⟨_, ?_, .pair⟩
    simp only [other, payload, Written.ofText?, String.reduceToList, String.reduceAppend]
    rfl
  have said : Says mousePointerEvent data message := ofPayload?_eq_some_iff.mp rfl
  rcases spellings_agree.1 mousePointerEvent data free with ⟨alike, accepted_iff⟩
  have accepted := (accepted_iff text message spelling).mpr said
  exact ⟨data, free, spelling, paired, said, accepted,
    (alike text other spelling paired).symm.trans accepted⟩

end ClientMessage

end SharedEditing
