import SharedEditing.Proofs.Change.Entitlement

/-! # What becomes of a change

A change is dropped for one reason, or is for nobody, or is delivered. Which of these it is
can be told from the stored document and from the answer about its thread. Only a comment
that names its thread has the thread looked up, and only what is for somebody is delivered,
so it can also be told what is asked of the surroundings. -/

namespace SharedEditing

/-- The fields in which a document needs usable text, in the order in which they are missed. -/
def Collection.requiredFields : Collection → List String
  | comment => ["threadId"]
  | commentThread => []
  | notification => ["forUsername", "_class"]

namespace Change

def Lacks (change : Change) (field : String) : Prop :=
  ∃ document, change.document = some document ∧
    change.collection.requiredFields.find? (fun name => (document.usable? name).isNone) =
      some field

def Consults (change : Change) (thread : String) : Prop :=
  change.collection = .comment ∧ ∃ document, change.document = some document ∧
    document.usable? "threadId" = some thread

structure IsSettled (change : Change) (lookup : ThreadLookup) (outcome : Outcome) : Prop where
  undocumented : ∀ collection id,
    outcome = .dropped (.defect (.missingDocument collection id)) ↔
      change.document = none ∧ collection = change.collection ∧ id = change.id
  lacking : ∀ collection id field,
    outcome = .dropped (.defect (.missingField collection id field)) ↔
      change.Lacks field ∧ collection = change.collection ∧ id = change.id
  unassigned : ∀ id, outcome = .dropped (.threadWithoutApplication id) ↔
    ∃ thread, change.Consults thread ∧ lookup thread = .error (.missingApplication id)
  failed : ∀ reason, outcome = .dropped (.lookupFailed reason) ↔
    ∃ thread error, change.Consults thread ∧ lookup thread = .error error ∧
      (∀ id, error ≠ .missingApplication id) ∧ reason = error.message
  unfound : ∀ thread, outcome = .dropped (.threadNotFound thread) ↔
    change.Consults thread ∧ lookup thread = .ok none
  suppressed : (∃ event, outcome = .suppressed event) ↔
    change.Deliverable lookup ∧ ∀ email, ¬ change.Entitles email
  delivered : (∃ event connections, outcome = .delivered event connections) ↔
    change.Deliverable lookup ∧ ∃ email, change.Entitles email
  /-- A notification has an owner. -/
  owned : change.collection = .notification → ∀ event, outcome ≠ .suppressed event

end Change

/-! ## Why a change is dropped -/

namespace Event

variable {change : Change} {document : Members} {field : String} {defect : Defect}

theorem textField_eq_error_iff {event : Event} :
    event.textField field = .error defect ↔
      event.document.usable? field = none ∧
        defect = .missingField event.collection event.id field := by
  unfold textField Members.usable?
  cases event.document.get? field with
  | none => simp [eq_comm]
  | some value =>
      cases value with
      | string written => by_cases empty : written.isEmpty <;> simp [empty, eq_comm]
      | _ => simp [eq_comm]

theorem textField_made_eq_error_iff (visible : field ∉ change.collection.internalFields)
    (unmarked : deletionMark ≠ field) :
    (made change document).textField field = .error defect ↔
      document.usable? field = none ∧
        defect = .missingField change.collection change.id field := by
  have same : (made change document).document.usable? field = document.usable? field := by
    unfold Members.usable?
    rw [get?_made change document visible unmarked]
  rw [textField_eq_error_iff, same]
  rfl

theorem prepareNotification_eq_error_iff {event : Event} :
    event.prepareNotification = .error defect ↔
      event.textField "forUsername" = .error defect ∨
        (∃ owner, event.textField "forUsername" = .ok owner) ∧
          event.textField "_class" = .error defect := by
  simp only [prepareNotification, bind, Except.bind, pure, Except.pure]
  cases event.textField "forUsername" with
  | error other => simp
  | ok owner => cases event.textField "_class" <;> simp

end Event

namespace FanOut

variable {lookup : ThreadLookup} {change : Change} {reason : DropReason}

theorem applicationFound_eq_error_iff {thread : String}
    {found : Except LookupError (Option String)} :
    applicationFound thread found = .error reason ↔
      (∃ id, found = .error (.missingApplication id) ∧ reason = .threadWithoutApplication id) ∨
        (∃ error, found = .error error ∧ (∀ id, error ≠ .missingApplication id) ∧
          reason = .lookupFailed error.message) ∨
        found = .ok none ∧ reason = .threadNotFound thread := by
  cases found with
  | error error => cases error <;> simp [applicationFound, DropReason.ofLookupError, eq_comm]
  | ok present => cases present <;> simp [applicationFound, eq_comm]

theorem route_made_eq_error_iff {document : Members} :
    route lookup (Event.made change document) = .error reason ↔
      match change.collection with
      | .comment =>
          (∃ defect, (Event.made change document).threadId = .error defect ∧
              reason = .defect defect) ∨
            ∃ thread, (Event.made change document).threadId = .ok thread ∧
              applicationFound thread (lookup thread) = .error reason
      | .commentThread => False
      | .notification => ∃ defect,
          (Event.made change document).prepareNotification = .error defect ∧
            reason = .defect defect := by
  have collection : (Event.made change document).collection = change.collection := rfl
  unfold route address
  rw [collection]
  cases change.collection with
  | comment =>
      cases named : (Event.made change document).threadId with
      | error defect => simp [eq_comm]
      | ok thread =>
          simp only [bind, Id.run]
          cases found : applicationFound thread (lookup thread) with
          | error other => simp [found, pure, eq_comm]
          | ok application => simp [found, pure]
  | commentThread => simp
  | notification =>
      cases (Event.made change document).prepareNotification with
      | error defect => simp [eq_comm]
      | ok prepared => simp

theorem routed_eq_error_iff :
    routed lookup change = .error reason ↔
      (change.document = none ∧
          reason = .defect (.missingDocument change.collection change.id)) ∨
        (∃ field, change.Lacks field ∧
          reason = .defect (.missingField change.collection change.id field)) ∨
        ∃ thread, change.Consults thread ∧
          applicationFound thread (lookup thread) = .error reason := by
  unfold routed Change.Lacks Change.Consults
  cases present : change.document with
  | none => simp [Event.ofChange, present, eq_comm]
  | some document =>
      simp only [Event.ofChange_eq_made present, route_made_eq_error_iff, reduceCtorEq, false_and,
        false_or, Option.some.injEq, exists_eq_left']
      cases collection : change.collection with
      | comment =>
          have visible : "threadId" ∉ change.collection.internalFields := by
            simp [collection, Collection.internalFields]
          simp only [Event.threadId, Event.textField_made_eq_ok_iff visible (by decide),
            Event.textField_made_eq_error_iff visible (by decide)]
          cases named : document.usable? "threadId" <;>
            simp [Collection.requiredFields, collection, named]
      | commentThread => simp [Collection.requiredFields]
      | notification =>
          have owned : "forUsername" ∉ change.collection.internalFields := by
            simp [collection, Collection.internalFields]
          have classed : "_class" ∉ change.collection.internalFields := by
            simp [collection, Collection.internalFields]
          simp only [Event.prepareNotification_eq_error_iff,
            Event.textField_made_eq_ok_iff owned (by decide),
            Event.textField_made_eq_error_iff owned (by decide),
            Event.textField_made_eq_error_iff classed (by decide)]
          cases owner : document.usable? "forUsername" <;>
            cases className : document.usable? "_class" <;>
              simp [Collection.requiredFields, collection, owner, className]

end FanOut

/-! ## What is asked on the way -/

inductive Call where
  | lookUp (thread : String)
  | deliver (audience : Audience) (notice : Notice)

namespace Call

def lookedUp? : Call → Option String
  | lookUp thread => some thread
  | deliver _ _ => none

def isDelivery : Call → Bool
  | lookUp _ => false
  | deliver _ _ => true

end Call

/-- The look-up and the delivery are asked for once where they are needed, and otherwise
never. -/
structure Change.Asks (change : Change) (outcome : Outcome) (calls : List Call) : Prop where
  consulted : ∀ thread, calls.filterMap Call.lookedUp? = [thread] ↔ change.Consults thread
  unconsulted : calls.filterMap Call.lookedUp? = [] ↔ ∀ thread, ¬ change.Consults thread
  delivered : calls.countP Call.isDelivery = 1 ↔
    ∃ event connections, outcome = .delivered event connections
  undelivered : calls.countP Call.isDelivery = 0 ↔
    ∀ event connections, outcome ≠ .delivered event connections

def Services.recorded {σ : Type} (services : Services (StateM σ)) :
    Services (StateM (σ × List Call)) where
  applicationOf thread := fun (state, calls) =>
    let (found, after) := (services.applicationOf thread).run state
    (found, after, calls ++ [.lookUp thread])
  deliver audience notice := fun (state, calls) =>
    let (connections, after) := (services.deliver audience notice).run state
    (connections, after, calls ++ [.deliver audience notice])

namespace FanOut

section Recorded

variable {σ : Type} (services : Services (StateM σ)) (state : σ) (change : Change)

def lookupAt : ThreadLookup := fun thread => ((services.applicationOf thread).run state).1

def outcome : Outcome := ((handle services change).run state).1

def calls : List Call := ((handle services.recorded change).run (state, [])).2.2

def deliveryOf : Except DropReason Addressed → List Call
  | .ok addressed =>
      if addressed.audience.isEmpty then []
      else [.deliver addressed.audience addressed.event.notice]
  | .error _ => []

theorem emit_recorded (addressed : Addressed) (asked : List Call) :
    (emit services.recorded addressed).run (state, asked) =
      (((emit services addressed).run state).1, ((emit services addressed).run state).2,
        asked ++ deliveryOf (.ok addressed)) := by
  cases empty : addressed.audience.isEmpty with
  | true =>
      simp only [emit, deliveryOf, empty, if_true, List.append_nil]
      rfl
  | false =>
      simp only [emit, deliveryOf, empty, Bool.false_eq_true, if_false]
      rfl

/-- The record does not interfere. It has the look-up first, and then the delivery. -/
theorem handle_recorded :
    (handle services.recorded change).run (state, []) =
      (((handle services change).run state).1, ((handle services change).run state).2,
        (consulted? change).toList.map .lookUp ++
          deliveryOf (routed (lookupAt services state) change)) := by
  rw [handle_run services (lookupAt services state)
      (fun thread => ((services.applicationOf thread).run state).2) state (fun _ => rfl) change,
    handle_run services.recorded (lookupAt services state)
      (fun thread => (((services.applicationOf thread).run state).2, [.lookUp thread]))
      (state, []) (fun _ => rfl) change]
  cases routed (lookupAt services state) change with
  | error reason => cases consulted? change <;> rfl
  | ok addressed =>
      cases consulted? change with
      | none => exact emit_recorded services state addressed []
      | some thread => exact emit_recorded services _ addressed [.lookUp thread]

theorem calls_eq : calls services state change =
    (consulted? change).toList.map .lookUp ++
      deliveryOf (routed (lookupAt services state) change) := by
  rw [calls, handle_recorded]

end Recorded

section Outcome

variable {σ : Type} {services : Services (StateM σ)} {state : σ} {change : Change}

theorem consulted?_eq_some_iff {thread : String} :
    consulted? change = some thread ↔ change.Consults thread := by
  unfold consulted? Change.Consults
  cases present : change.document with
  | none => simp [Event.ofChange, present]
  | some document =>
      have collection : (Event.made change document).collection = change.collection := rfl
      simp only [Event.ofChange_eq_made present, lookedUp?, collection, Option.some.injEq,
        exists_eq_left']
      cases own : change.collection with
      | comment =>
          have visible : "threadId" ∉ change.collection.internalFields := by
            simp [own, Collection.internalFields]
          simp only [true_and, ← Event.textField_made_eq_ok_iff visible (by decide),
            Event.threadId]
          cases (Event.made change document).textField "threadId" <;> simp [Except.toOption]
      | _ => simp

theorem outcome_of_dropped {reason : DropReason}
    (dropped : routed (lookupAt services state) change = .error reason) :
    outcome services state change = .dropped reason := by
  rw [outcome, handle_run services (lookupAt services state) _ state (fun _ => rfl) change, dropped]

theorem outcome_of_routed {addressed : Addressed}
    (sent : routed (lookupAt services state) change = .ok addressed) :
    (addressed.audience = [] ∧
        outcome services state change = .suppressed addressed.event.name) ∨
      addressed.audience ≠ [] ∧ ∃ connections,
        outcome services state change = .delivered addressed.event.name connections := by
  rw [outcome, handle_run services (lookupAt services state) _ state (fun _ => rfl) change, sent]
  simp only [emit]
  cases empty : addressed.audience.isEmpty with
  | true => exact .inl ⟨List.isEmpty_iff.mp empty, rfl⟩
  | false =>
      refine .inr ⟨fun nobody => ?_, _, rfl⟩
      rw [nobody] at empty
      cases empty

theorem outcome_eq_dropped_iff {reason : DropReason} :
    outcome services state change = .dropped reason ↔
      routed (lookupAt services state) change = .error reason := by
  constructor
  · intro dropped
    cases sent : routed (lookupAt services state) change with
    | error other =>
        rw [outcome_of_dropped sent] at dropped
        cases dropped
        rfl
    | ok addressed =>
        rcases outcome_of_routed sent with ⟨_, suppressed⟩ | ⟨_, _, delivered⟩
        · rw [suppressed] at dropped
          cases dropped
        · rw [delivered] at dropped
          cases dropped
  · exact outcome_of_dropped

theorem suppressed_iff : (∃ event, outcome services state change = .suppressed event) ↔
    change.Deliverable (lookupAt services state) ∧ ∀ email, ¬ change.Entitles email := by
  rw [← routed_iff_deliverable]
  cases sent : routed (lookupAt services state) change with
  | error reason => simp [outcome_of_dropped sent]
  | ok addressed =>
      simp only [← mem_audience_iff sent, ← List.eq_nil_iff_forall_not_mem]
      rcases outcome_of_routed sent with ⟨nobody, suppressed⟩ | ⟨somebody, _, delivered⟩
      · simp [suppressed, nobody]
      · simp [delivered, somebody]

theorem delivered_iff :
    (∃ event connections, outcome services state change = .delivered event connections) ↔
      change.Deliverable (lookupAt services state) ∧ ∃ email, change.Entitles email := by
  rw [← routed_iff_deliverable]
  cases sent : routed (lookupAt services state) change with
  | error reason => simp [outcome_of_dropped sent]
  | ok addressed =>
      have somebody_iff : (∃ email, change.Entitles email) ↔ addressed.audience ≠ [] := by
        simp only [← mem_audience_iff sent, ← List.isEmpty_eq_false_iff,
          List.isEmpty_eq_false_iff_exists_mem]
      rw [somebody_iff]
      rcases outcome_of_routed sent with ⟨nobody, suppressed⟩ | ⟨somebody, _, delivered⟩
      · simp [suppressed, nobody]
      · simp [delivered, somebody]

theorem exists_entitled_of_notification {lookup : ThreadLookup}
    (kind : change.collection = .notification) (deliverable : change.Deliverable lookup) :
    ∃ email, change.Entitles email := by
  unfold Change.Deliverable at deliverable
  rcases deliverable with ⟨document, present, asked⟩
  simp only [kind] at asked
  rcases asked with ⟨owner, _, named, _⟩
  refine ⟨owner, document, present, ?_⟩
  simp only [kind]
  exact named

theorem isSettled_outcome :
    change.IsSettled (lookupAt services state) (outcome services state change) where
  undocumented collection id := by
    rw [outcome_eq_dropped_iff, routed_eq_error_iff]
    simp [applicationFound_eq_error_iff]
  lacking collection id field := by
    rw [outcome_eq_dropped_iff, routed_eq_error_iff]
    simp only [applicationFound_eq_error_iff, DropReason.defect.injEq, reduceCtorEq,
      Defect.missingField.injEq, and_false, exists_false, or_false, false_or]
    constructor
    · intro dropped
      rcases dropped with ⟨_, lacks, own, rfl, rfl⟩
      exact ⟨lacks, own, rfl⟩
    · intro lacking
      rcases lacking with ⟨lacks, own, rfl⟩
      exact ⟨field, lacks, own, rfl, rfl⟩
  unassigned id := by
    rw [outcome_eq_dropped_iff, routed_eq_error_iff]
    simp [applicationFound_eq_error_iff]
  failed reason := by
    rw [outcome_eq_dropped_iff, routed_eq_error_iff]
    simp [applicationFound_eq_error_iff]
  unfound thread := by
    rw [outcome_eq_dropped_iff, routed_eq_error_iff]
    simp [applicationFound_eq_error_iff]
  suppressed := suppressed_iff
  delivered := delivered_iff
  owned := by
    intro kind event suppressed
    rcases suppressed_iff.mp ⟨event, suppressed⟩ with ⟨deliverable, nobody⟩
    rcases exists_entitled_of_notification kind deliverable with ⟨email, entitled⟩
    exact nobody email entitled

theorem filterMap_lookedUp?_calls :
    (calls services state change).filterMap Call.lookedUp? = (consulted? change).toList := by
  have undelivered : (deliveryOf (routed (lookupAt services state) change)).filterMap
      Call.lookedUp? = [] := by
    unfold deliveryOf
    split
    · split <;> rfl
    · rfl
  rw [calls_eq, List.filterMap_append, undelivered]
  cases consulted? change <;> rfl

theorem countP_isDelivery_calls :
    (calls services state change).countP Call.isDelivery =
      (deliveryOf (routed (lookupAt services state) change)).length := by
  have others : ((consulted? change).toList.map Call.lookUp).countP Call.isDelivery = 0 := by
    cases consulted? change <;> rfl
  rw [calls_eq, List.countP_append, others, Nat.zero_add, List.countP_eq_length]
  unfold deliveryOf
  intro call member
  split at member
  · split at member
    · cases member
    · rw [List.mem_singleton.mp member]
      rfl
  · cases member

theorem length_deliveryOf_cases (services : Services (StateM σ)) (state : σ)
    (change : Change) :
    (deliveryOf (routed (lookupAt services state) change)).length = 1 ∧
        (∃ event connections, outcome services state change = .delivered event connections) ∨
      (deliveryOf (routed (lookupAt services state) change)).length = 0 ∧
        ∀ event connections, outcome services state change ≠ .delivered event connections := by
  cases sent : routed (lookupAt services state) change with
  | error reason => exact .inr ⟨rfl, by simp [outcome_of_dropped sent]⟩
  | ok addressed =>
      rcases outcome_of_routed sent with ⟨nobody, suppressed⟩ | ⟨somebody, connections, delivered⟩
      · exact .inr ⟨by simp [deliveryOf, nobody], by simp [suppressed]⟩
      · exact .inl ⟨by simp [deliveryOf, somebody], _, connections, delivered⟩

theorem asks_calls :
    change.Asks (outcome services state change) (calls services state change) where
  consulted thread := by
    rw [filterMap_lookedUp?_calls, ← consulted?_eq_some_iff]
    cases consulted? change <;> simp
  unconsulted := by
    simp only [filterMap_lookedUp?_calls, ← consulted?_eq_some_iff]
    cases consulted? change <;> simp
  delivered := by
    rw [countP_isDelivery_calls]
    rcases length_deliveryOf_cases services state change with
      ⟨one, delivered⟩ | ⟨none, undelivered⟩
    · exact iff_of_true one delivered
    · refine iff_of_false (by simp [none]) ?_
      simpa using undelivered
  undelivered := by
    rw [countP_isDelivery_calls]
    rcases length_deliveryOf_cases services state change with
      ⟨one, delivered⟩ | ⟨none, undelivered⟩
    · refine iff_of_false (by simp [one]) ?_
      simpa using delivered
    · exact iff_of_true none undelivered

end Outcome

/-- Whatever threads there are and however they are looked up, and wherever notices go:
every change has the outcome that its document and its thread call for, no more is asked
than that outcome needs, and the record of what is asked changes nothing. -/
theorem every_change_is_settled {σ : Type} (services : Services (StateM σ)) (state : σ)
    (change : Change) :
    change.IsSettled (lookupAt services state) (outcome services state change) ∧
      change.Asks (outcome services state change) (calls services state change) ∧
      ((handle services.recorded change).run (state, [])).1 = outcome services state change ∧
      ((handle services.recorded change).run (state, [])).2.1 =
        ((handle services change).run state).2 := by
  refine ⟨isSettled_outcome, asks_calls, ?_, ?_⟩
  · rw [handle_recorded]
    rfl
  · rw [handle_recorded]

end FanOut

end SharedEditing
