import SharedEditing.Proofs.Frame.RoundTrip

/-! # What payloads say

Which payload belongs to which name, and what it says, without regard to how it is read: a
resource is a string, and a pointer is an object that may name who moved it, every other
member of which is position. -/

namespace SharedEditing

namespace Written

inductive Given {α : Type} (is : α → Written → Prop) : Option Written → Option α → Prop where
  | absent : Given is none none
  | null : Given is (some .null) none
  | given {value : α} {written : Written} (present : is value written) :
      Given is (some written) (some value)

theorem optional?_eq_some_iff {α : Type} {read : Written → Option α} {is : α → Written → Prop}
    (reads : ∀ written value, read written = some value ↔ is value written)
    (refuses : read .null = none) {found : Option Written} {value : Option α} :
    optional? read found = some value ↔ Given is found value := by
  constructor
  · intro optional
    match found with
    | none =>
        cases optional
        exact .absent
    | some .null =>
        cases optional
        exact .null
    | some (.bool _) | some (.number _) | some (.string _) | some (.array _) | some (.object _) =>
        rcases Option.map_eq_some_iff.mp optional with ⟨value, present, rfl⟩
        exact .given ((reads _ _).mp present)
  · intro given
    cases given with
    | absent => rfl
    | null => rfl
    | @given value written present =>
        have found := (reads written value).mpr present
        cases written with
        | null => cases refuses.symm.trans found
        | _ => exact Option.map_eq_some_iff.mpr ⟨value, found, rfl⟩

/-- Members hold what is written among others: each value can be read, and of equal keys the
last counts. -/
structure Collects (written : List (String × Written)) (members : Members) : Prop where
  sorted : members.Sorted
  readable : ∀ member ∈ written, member.2.value? ≠ none
  last : ∀ key, (members.get? key).map some = (occurrences written key).getLast?.map value?

variable {written : List (String × Written)} {members : Members}

theorem exists_memberValues? (readable : ∀ member ∈ written, member.2.value? ≠ none) :
    ∃ values, memberValues? Json.ofText? (ofKeyed written) = some values := by
  induction written with
  | nil => exact ⟨[], rfl⟩
  | cons member rest induction =>
      rcases List.forall_mem_cons.mp readable with ⟨first, others⟩
      rcases Option.ne_none_iff_exists'.mp first with ⟨value, valued⟩
      rcases induction others with ⟨values, later⟩
      refine ⟨(member.1, value) :: values, ?_⟩
      rw [value?] at valued
      rw [ofKeyed] at later
      rw [ofKeyed, List.map_cons, memberValues?.eq_def]
      simp only [valued, later]

theorem readable_of_memberValues? {values : List (String × Json)}
    (read : memberValues? Json.ofText? (ofKeyed written) = some values) :
    ∀ member ∈ written, member.2.value? ≠ none := by
  induction written generalizing values with
  | nil => exact fun _ => nofun
  | cons member rest induction =>
      rcases memberValues?_cons read with ⟨value, later, first, others, rfl⟩
      exact List.forall_mem_cons.mpr
        ⟨Option.ne_none_iff_exists'.mpr ⟨value, first⟩, induction others⟩

theorem Collects.of_freeMembers? (read : freeMembers? (ofKeyed written) = some members) :
    Collects written members := by
  rcases Option.map_eq_some_iff.mp read with ⟨values, valued, same⟩
  exact ⟨same ▸ Members.sorted_ofList values, readable_of_memberValues? valued,
    get?_freeMembers? read⟩

theorem freeMembers?_eq_some_iff :
    freeMembers? (ofKeyed written) = some members ↔ Collects written members := by
  refine ⟨.of_freeMembers?, fun collects => ?_⟩
  rcases exists_memberValues? collects.readable with ⟨values, valued⟩
  have read : freeMembers? (ofKeyed written) = some (Members.ofList values) :=
    Option.map_eq_some_iff.mpr ⟨values, valued, rfl⟩
  rw [read, Members.eq_of_get?_eq (Members.sorted_ofList values) collects.sorted fun key => ?_]
  exact (Option.map_inj_right fun _ _ => Option.some.inj).mp
    ((get?_freeMembers? read key).trans (collects.last key).symm)

end Written

open Written

/-! ## Pointers -/

/-- An identity as it is written: an object that has the two fields once each, among any other
members, or an array of the two. -/
inductive Identity.IsWritten (identity : Identity) : Written → Prop where
  | object {members : List (String × Written)}
      (names : occurrences members "name" = [.string (some identity.name)])
      (emails : occurrences members "email" = [.string (some identity.email)]) :
      IsWritten identity (.object (ofKeyed members))
  | array : IsWritten identity
      (.array [.string (some identity.name), .string (some identity.email)])

theorem Identity.fields?_eq_some_iff {written name email : Written} :
    written.fields? [⟨"name", .refused⟩, ⟨"email", .refused⟩] = some [some name, some email] ↔
      (∃ members, written = .object (ofKeyed members) ∧
        occurrences members "name" = [name] ∧ occurrences members "email" = [email]) ∨
      written = .array [name, email] := by
  have places (items : List Written) :
      places? [⟨"name", .refused⟩, ⟨"email", .refused⟩] items = some [some name, some email] ↔
        items = [name, email] := by
    rcases items with _ | ⟨one, _ | ⟨two, _ | ⟨three, more⟩⟩⟩ <;> simp [places?]
  simp [Written.fields?_eq_some_iff, member?_refused_eq_some_iff, keyed?_eq_some_iff, places]

theorem Identity.read?_eq_some_iff {written : Written} {identity : Identity} :
    read? written = some identity ↔ identity.IsWritten written := by
  constructor
  · intro read
    unfold read? at read
    split at read
    · rename_i name email fields
      simp only [Option.bind_eq_bind, Option.pure_def, Option.bind_eq_some_iff,
        string?_eq_some_iff, Option.some.injEq] at read
      rcases read with ⟨name, rfl, email, rfl, rfl⟩
      rcases fields?_eq_some_iff.mp fields with ⟨members, rfl, names, emails⟩ | rfl
      · exact .object names emails
      · exact .array
    · cases read
  · intro stands
    have fields : written.fields? [⟨"name", .refused⟩, ⟨"email", .refused⟩] =
        some [some (.string (some identity.name)), some (.string (some identity.email))] := by
      cases stands with
      | object names emails => exact fields?_eq_some_iff.mpr (.inl ⟨_, rfl, names, emails⟩)
      | array => rfl
    rw [read?, fields]
    rfl

namespace PointerEvent

def others (members : List (String × Written)) : List (String × Written) :=
  members.filter fun member => isPosition member.1

structure IsWritten (levels : Nat) (event : PointerEvent) (members : List (String × Written)) :
    Prop where
  user : ∃ found, occurrences members userKey = found.toList ∧
    Given Identity.IsWritten found event.user
  socket : ∃ found, occurrences members socketKey = found.toList ∧
    Given (fun id written => written = .string (some id)) found event.socketId
  position : Collects (others members) event.position
  shallow : membersHeight (ofKeyed (others members)) < levels

theorem users_eq_some_iff {found : Option Written} {user : Option Identity} :
    optional? Identity.read? found = some user ↔ Given Identity.IsWritten found user :=
  optional?_eq_some_iff (fun _ _ => Identity.read?_eq_some_iff) rfl

theorem sockets_eq_some_iff {found : Option Written} {socket : Option String} :
    optional? string? found = some socket ↔
      Given (fun id written => written = .string (some id)) found socket :=
  optional?_eq_some_iff (fun _ _ => string?_eq_some_iff) rfl

theorem read?_eq_some_iff {levels : Nat} {written : Written} {event : PointerEvent} :
    read? levels written = some event ↔
      ∃ members, written = .object (ofKeyed members) ∧ event.IsWritten levels members := by
  have places (members : List (String × Written)) :
      positionOf members = ofKeyed (others members) := rfl
  constructor
  · intro read
    cases written with
    | object members =>
        simp only [read?, Option.bind_eq_bind, Option.bind_eq_some_iff, keyed?_eq_some_iff,
          member?_noValue_eq_some_iff, users_eq_some_iff, sockets_eq_some_iff] at read
        rcases read with ⟨members, rfl, user, users, who, named, socket, sockets, id, sent, read⟩
        split_ifs at read with shallow
        simp only [Option.bind_eq_some_iff, Option.pure_def, Option.some.injEq, places,
          freeMembers?_eq_some_iff] at read shallow
        rcases read with ⟨position, collects, rfl⟩
        exact ⟨members, rfl, ⟨user, users, named⟩, ⟨socket, sockets, sent⟩, collects, shallow⟩
    | _ => cases read
  · rintro ⟨members, rfl, ⟨user, users, named⟩, ⟨socket, sockets, sent⟩, collects, shallow⟩
    rw [read?]
    simp only [keyed?_ofKeyed, member?_noValue_eq_some_iff.mpr users,
      users_eq_some_iff.mpr named, member?_noValue_eq_some_iff.mpr sockets,
      sockets_eq_some_iff.mpr sent, places,
      freeMembers?_eq_some_iff.mpr collects, if_pos shallow, Option.bind_eq_bind,
      Option.bind_some]
    rfl

end PointerEvent

/-! ## Names -/

namespace ClientMessage

inductive Says : String → Written → ClientMessage → Prop where
  | startEdit (resource : String) :
      Says startEditEvent (.string (some resource)) (.startEdit resource)
  | leaveEdit (resource : String) :
      Says leaveEditEvent (.string (some resource)) (.leaveEdit resource)
  | mousePointer {event : PointerEvent} {members : List (String × Written)}
      (written : event.IsWritten payloadLevels members) :
      Says mousePointerEvent (.object (ofKeyed members)) (.mousePointer event)

theorem ofPayload?_eq_some_iff {name : String} {data : Written} {message : ClientMessage} :
    ofPayload? name data = some message ↔ Says name data message := by
  constructor
  · intro read
    rw [ofPayload?] at read
    simp only [Option.bind_eq_bind, Option.pure_def] at read
    split_ifs at read with start leave pointer <;>
      simp only [Option.bind_eq_some_iff, Option.some.injEq, string?_eq_some_iff,
        PointerEvent.read?_eq_some_iff] at read
    · rcases read with ⟨resource, rfl, rfl⟩
      exact start ▸ .startEdit resource
    · rcases read with ⟨resource, rfl, rfl⟩
      exact leave ▸ .leaveEdit resource
    · rcases read with ⟨event, ⟨members, rfl, written⟩, rfl⟩
      exact pointer ▸ .mousePointer written
  · intro said
    cases said with
    | startEdit resource => rfl
    | leaveEdit resource => rfl
    | mousePointer written =>
        rw [ofPayload?_mousePointer, PointerEvent.read?_eq_some_iff.mpr ⟨_, rfl, written⟩]
        rfl

end ClientMessage

end SharedEditing
