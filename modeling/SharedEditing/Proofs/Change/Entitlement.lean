import SharedEditing.Change.FanOut

/-! # Who is entitled to a change

Read off the changed document as it is stored, before anything is made of it: whether
a change can be delivered at all, and to whom. Fan-out works on the event made from
the change, and comes to the same. -/

namespace SharedEditing

abbrev ThreadLookup := String → Except LookupError (Option String)

def Members.usable? (document : Members) (field : String) : Option String :=
  match document.get? field with
  | some (.string text) => if text.isEmpty then none else some text
  | _ => none

/-- The first entry of a document's policies that is shaped like a policy and is for
the permission. -/
structure Policy.IsFirst (document : Members) (permission : String) (policy : Policy)
    (before : List Json) (entry : Json) (after : List Json) : Prop where
  entries : document.get? "policies" = some (.array (before ++ entry :: after))
  shaped : Policy.read? (Written.ofValue entry) = some policy
  granted : policy.permission = permission
  first : ∀ other ∈ before, ∀ earlier, Policy.read? (Written.ofValue other) = some earlier →
    earlier.permission ≠ permission

namespace Change

/-- A document is there, and so is what the collection asks of it. -/
def Deliverable (lookup : ThreadLookup) (change : Change) : Prop :=
  ∃ document, change.document = some document ∧
    match change.collection with
    | .comment => ∃ thread application,
        document.usable? "threadId" = some thread ∧ lookup thread = .ok (some application)
    | .commentThread => True
    | .notification => ∃ owner className,
        document.usable? "forUsername" = some owner ∧ document.usable? "_class" = some className

def Entitles (change : Change) (email : String) : Prop :=
  ∃ document, change.document = some document ∧
    match change.collection with
    | .comment => ∃ policy before entry after,
        Policy.IsFirst document "read:comments" policy before entry after ∧ email ∈ policy.users
    | .commentThread => ∃ policy before entry after,
        Policy.IsFirst document "read:commentThreads" policy before entry after ∧
          email ∈ policy.users
    | .notification => document.usable? "forUsername" = some email

end Change

/-! ## Fields of the event -/

namespace Members

theorem get?_eraseAll (members : Members) (keys : List String) (key : String) :
    get? (eraseAll members keys) key = if key ∈ keys then none else get? members key := by
  unfold eraseAll
  induction keys generalizing members with
  | nil => simp
  | cons first rest induction =>
      rw [List.foldl_cons, induction, get?_erase]
      by_cases same : first = key
      · simp [same]
      · simp [same, Ne.symm same]

end Members

namespace Event

def made (change : Change) (document : Members) : Event where
  collection := change.collection
  operation :=
    if isMarkedDeleted (document.eraseAll change.collection.internalFields) then .delete
    else change.operation
  id := change.id
  document := (document.eraseAll change.collection.internalFields).erase deletionMark

theorem ofChange_eq_made {change : Change} {document : Members}
    (present : change.document = some document) : ofChange change = .ok (made change document) := by
  simp only [ofChange, present]
  rfl

theorem get?_made (change : Change) (document : Members) {field : String}
    (visible : field ∉ change.collection.internalFields) (unmarked : deletionMark ≠ field) :
    (made change document).document.get? field = document.get? field := by
  simp only [made]
  rw [Members.get?_erase, if_neg unmarked, Members.get?_eraseAll, if_neg visible]

theorem textField_eq_ok_iff {event : Event} {field text : String} :
    event.textField field = .ok text ↔ event.document.usable? field = some text := by
  unfold textField Members.usable?
  cases event.document.get? field with
  | none => simp
  | some value =>
      cases value with
      | string written => by_cases empty : written.isEmpty <;> simp [empty]
      | _ => simp

theorem textField_made_eq_ok_iff {change : Change} {document : Members} {field text : String}
    (visible : field ∉ change.collection.internalFields) (unmarked : deletionMark ≠ field) :
    (made change document).textField field = .ok text ↔ document.usable? field = some text := by
  rw [textField_eq_ok_iff]
  unfold Members.usable?
  rw [get?_made change document visible unmarked]

theorem prepareNotification_eq_ok_iff {event prepared : Event} {owner : String} :
    event.prepareNotification = .ok (owner, prepared) ↔
      event.textField "forUsername" = .ok owner ∧ ∃ className,
        event.textField "_class" = .ok className ∧
          prepared = { event with
            document := (event.document.erase "_class").insert "type"
              (.string (kindOfClass className)) } := by
  simp only [prepareNotification, bind, Except.bind, pure, Except.pure]
  cases event.textField "forUsername" with
  | error defect => simp
  | ok named =>
      cases event.textField "_class" with
      | error defect => simp
      | ok className => simp [eq_comm]

end Event

/-! ## Policies -/

namespace Policy

theorem find?_listOf_eq_some_iff {document : Members} {permission : String} {policy : Policy} :
    (listOf (document.get? "policies")).find? (fun other => other.permission == permission) =
        some policy ↔
      ∃ before entry after, IsFirst document permission policy before entry after := by
  constructor
  · intro found
    unfold listOf at found
    split at found
    · rename_i entries written
      rw [List.find?_filterMap, Option.bind_eq_some_iff] at found
      rcases found with ⟨entry, found, shaped⟩
      rw [List.find?_eq_some_iff_append] at found
      rcases found with ⟨granted, before, after, rfl, first⟩
      refine ⟨before, entry, after, written, shaped, ?_, ?_⟩
      · simpa [shaped] using granted
      · intro other member earlier read
        simpa [read] using first other member
    · cases found
  · intro found
    rcases found with ⟨before, entry, after, isFirst⟩
    simp only [listOf, isFirst.entries]
    rw [List.find?_filterMap, Option.bind_eq_some_iff]
    refine ⟨entry, ?_, isFirst.shaped⟩
    rw [List.find?_eq_some_iff_append]
    refine ⟨by simp [isFirst.shaped, isFirst.granted], before, after, rfl, ?_⟩
    intro other member
    cases read : read? (Written.ofValue other) with
    | none => rfl
    | some earlier => simpa using isFirst.first other member earlier read

theorem mem_entitled_iff {document : Members} {permission email : String} :
    email ∈ Audience.entitled (listOf (document.get? "policies")) permission ↔
      ∃ policy before entry after,
        IsFirst document permission policy before entry after ∧ email ∈ policy.users := by
  unfold Audience.entitled
  constructor
  · intro member
    split at member
    · rename_i policy found
      rcases find?_listOf_eq_some_iff.mp found with ⟨before, entry, after, isFirst⟩
      exact ⟨policy, before, entry, after, isFirst, Audience.mem_ofList.mp member⟩
    · cases member
  · intro found
    rcases found with ⟨policy, before, entry, after, isFirst, member⟩
    rw [find?_listOf_eq_some_iff.mpr ⟨before, entry, after, isFirst⟩]
    exact Audience.mem_ofList.mpr member

end Policy

/-! ## Where fan-out sends a change -/

namespace FanOut

def route (lookup : ThreadLookup) (event : Event) : Except DropReason Addressed :=
  Id.run (address ⟨lookup, fun _ _ => pure 0⟩ event)

def routed (lookup : ThreadLookup) (change : Change) : Except DropReason Addressed :=
  match Event.ofChange change with
  | .error defect => .error (.defect defect)
  | .ok event => route lookup event

def lookedUp? (event : Event) : Option String :=
  match event.collection with
  | .comment => event.threadId.toOption
  | _ => none

def consulted? (change : Change) : Option String :=
  match Event.ofChange change with
  | .error _ => none
  | .ok event => lookedUp? event

section Run

variable {σ : Type} (services : Services (StateM σ)) (lookup : ThreadLookup)
  (touched : String → σ) (state : σ)

/-- A thread is looked up at most once, before anything else is done. -/
theorem address_run
    (looks : ∀ thread, (services.applicationOf thread).run state = (lookup thread, touched thread))
    (event : Event) :
    (address services event).run state =
      (route lookup event, (lookedUp? event).elim state touched) := by
  unfold address route address lookedUp?
  cases event.collection with
  | comment =>
      cases named : event.threadId with
      | error defect => rfl
      | ok thread =>
          simp only [StateT.run_bind, looks thread]
          simp only [bind, Id.run]
          cases applicationFound thread (lookup thread) <;> rfl
  | commentThread => rfl
  | notification =>
      cases event.prepareNotification with
      | error defect => rfl
      | ok prepared => rfl

theorem handle_run
    (looks : ∀ thread, (services.applicationOf thread).run state = (lookup thread, touched thread))
    (change : Change) :
    (handle services change).run state =
      match routed lookup change with
      | .error reason => (.dropped reason, (consulted? change).elim state touched)
      | .ok addressed =>
          (emit services addressed).run ((consulted? change).elim state touched) := by
  unfold handle routed consulted?
  cases Event.ofChange change with
  | error defect => rfl
  | ok event =>
      simp only [StateT.run_bind, address_run services lookup touched state looks event]
      cases route lookup event <;> rfl

theorem handle_run_of_still
    (looks : ∀ thread, (services.applicationOf thread).run state = (lookup thread, state))
    (change : Change) :
    (handle services change).run state =
      match routed lookup change with
      | .error reason => (.dropped reason, state)
      | .ok addressed => (emit services addressed).run state := by
  have same : (consulted? change).elim state (fun _ => state) = state := by
    cases consulted? change <;> rfl
  rw [handle_run services lookup (fun _ => state) state looks change, same]

end Run

/-! ## The route of a deliverable change -/

variable {lookup : ThreadLookup} {change : Change} {addressed : Addressed}

theorem route_made_eq_ok_iff {document : Members} :
    route lookup (Event.made change document) = .ok addressed ↔
      match change.collection with
      | .comment => ∃ thread application,
          (Event.made change document).threadId = .ok thread ∧
            lookup thread = .ok (some application) ∧
              addressed = ⟨readers (Event.made change document),
                (Event.made change document).prepareComment application⟩
      | .commentThread => addressed = ⟨readers (Event.made change document),
          (Event.made change document).prepareThread⟩
      | .notification => ∃ owner prepared,
          (Event.made change document).prepareNotification = .ok (owner, prepared) ∧
            addressed = ⟨[owner], prepared⟩ := by
  have collection : (Event.made change document).collection = change.collection := rfl
  unfold route address
  rw [collection]
  cases change.collection with
  | comment =>
      cases named : (Event.made change document).threadId with
      | error defect => simp
      | ok thread =>
          simp only [bind, Id.run]
          cases found : lookup thread with
          | error error => simp [applicationFound, found]
          | ok present =>
              cases present with
              | none => simp [applicationFound, found]
              | some application => simp [applicationFound, found, pure, eq_comm]
  | commentThread => simp [eq_comm]
  | notification =>
      cases prepared : (Event.made change document).prepareNotification with
      | error defect => simp
      | ok pair =>
          obtain ⟨owner, finished⟩ := pair
          constructor
          · intro equal
            cases equal
            exact ⟨owner, finished, rfl, rfl⟩
          · intro found
            rcases found with ⟨_, _, ⟨⟩, rfl⟩
            rfl

theorem routed_eq_ok_iff :
    routed lookup change = .ok addressed ↔
      ∃ document, change.document = some document ∧
        route lookup (Event.made change document) = .ok addressed := by
  unfold routed
  cases present : change.document with
  | none => simp [Event.ofChange, present]
  | some document => simp [Event.ofChange_eq_made present]

theorem routed_iff_deliverable :
    (∃ addressed, routed lookup change = .ok addressed) ↔ change.Deliverable lookup := by
  unfold Change.Deliverable
  simp only [routed_eq_ok_iff]
  rw [exists_comm]
  refine exists_congr fun document => ?_
  rw [exists_and_left]
  refine and_congr_right fun _ => ?_
  simp only [route_made_eq_ok_iff]
  cases collection : change.collection with
  | comment =>
      have visible : "threadId" ∉ change.collection.internalFields := by
        simp [collection, Collection.internalFields]
      simp only [Event.threadId, Event.textField_made_eq_ok_iff visible (by decide)]
      constructor
      · intro sent
        rcases sent with ⟨_, thread, application, named, found, _⟩
        exact ⟨thread, application, named, found⟩
      · intro asked
        rcases asked with ⟨thread, application, named, found⟩
        exact ⟨_, thread, application, named, found, rfl⟩
  | commentThread => simp
  | notification =>
      have owned : "forUsername" ∉ change.collection.internalFields := by
        simp [collection, Collection.internalFields]
      have classed : "_class" ∉ change.collection.internalFields := by
        simp [collection, Collection.internalFields]
      simp only [Event.prepareNotification_eq_ok_iff,
        Event.textField_made_eq_ok_iff owned (by decide),
        Event.textField_made_eq_ok_iff classed (by decide)]
      constructor
      · intro sent
        rcases sent with ⟨_, owner, _, ⟨named, className, typed, _⟩, _⟩
        exact ⟨owner, className, named, typed⟩
      · intro asked
        rcases asked with ⟨owner, className, named, typed⟩
        exact ⟨_, owner, _, ⟨named, className, typed, rfl⟩, rfl⟩

theorem mem_readers_made_iff {document : Members} {permission email : String}
    (asked : change.collection.readPermission? = some permission)
    (visible : "policies" ∉ change.collection.internalFields) :
    email ∈ readers (Event.made change document) ↔
      ∃ policy before entry after,
        Policy.IsFirst document permission policy before entry after ∧ email ∈ policy.users := by
  have collection : (Event.made change document).collection = change.collection := rfl
  unfold readers Event.policies
  rw [collection, asked, Event.get?_made change document visible (by decide)]
  exact Policy.mem_entitled_iff

theorem mem_audience_iff {email : String} (ok : routed lookup change = .ok addressed) :
    email ∈ addressed.audience ↔ change.Entitles email := by
  rcases routed_eq_ok_iff.mp ok with ⟨document, present, ok⟩
  rw [route_made_eq_ok_iff] at ok
  unfold Change.Entitles
  simp only [present, Option.some.injEq, exists_eq_left']
  cases collection : change.collection with
  | comment =>
      simp only [collection] at ok
      rcases ok with ⟨_, _, _, _, rfl⟩
      exact mem_readers_made_iff (by rw [collection]; rfl)
        (by simp [collection, Collection.internalFields])
  | commentThread =>
      simp only [collection] at ok
      subst ok
      exact mem_readers_made_iff (by rw [collection]; rfl)
        (by simp [collection, Collection.internalFields])
  | notification =>
      simp only [collection] at ok
      rcases ok with ⟨owner, prepared, finished, rfl⟩
      have named := (Event.prepareNotification_eq_ok_iff.mp finished).1
      rw [Event.textField_made_eq_ok_iff
        (by simp [collection, Collection.internalFields]) (by decide)] at named
      simp [named, eq_comm]

end FanOut

end SharedEditing
