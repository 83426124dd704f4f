import SharedEditing.Proofs.Json.Members
import SharedEditing.Store.Session

/-! # What the store withholds

The store gives a document without the fields that are internal to its collection, and the
event of a change leaves them out again. The first of the two takes nothing that the event
is made with: the event is the one that the stored document would have given, except that a
fetched document always carries an id. -/

namespace SharedEditing

/-! ## Members up to the id of their row -/

namespace Members

open Redaction in
structure SetsId (stored : Members) (id : String) (direct fetched : Members) : Prop where
  looks : ∀ key, fetched.get? key =
    if key = idKey ∧ stored.has idKey = false then some (.string id) else direct.get? key
  sorted : stored.Sorted → direct.Sorted ∧ fetched.Sorted

namespace SetsId

open Redaction

variable {stored direct fetched : Members} {id : String}

theorem of_withId (stored : Members) (id : String) :
    stored.SetsId id stored (withId id stored) := by
  unfold withId
  constructor
  case looks =>
    intro key
    cases own : stored.has idKey with
    | true => simp
    | false => simp [get?_insert, eq_comm (a := key)]
  case sorted =>
    intro sorted
    refine ⟨sorted, ?_⟩
    split
    · exact sorted
    · exact sorted_insert sorted _ _

theorem other (sets : stored.SetsId id direct fetched) {key : String} (other : key ≠ idKey) :
    fetched.get? key = direct.get? key := by
  rw [sets.looks, if_neg fun both => other both.1]

theorem exact (sets : stored.SetsId id direct fetched) (sorted : stored.Sorted) :
    fetched = if stored.has idKey then direct else direct.insert idKey (.string id) := by
  rcases sets.sorted sorted with ⟨directSorted, fetchedSorted⟩
  refine eq_of_get?_eq fetchedSorted ?_ fun key => ?_
  · split
    · exact directSorted
    · exact sorted_insert directSorted _ _
  · rw [sets.looks]
    cases stored.has idKey with
    | true => simp
    | false => simp [get?_insert, eq_comm (a := key)]

theorem erase (sets : stored.SetsId id direct fetched) {key : String} (other : key ≠ idKey) :
    stored.SetsId id (direct.erase key) (fetched.erase key) := by
  constructor
  case looks =>
    intro sought
    rw [get?_erase, get?_erase, sets.looks]
    by_cases same : key = sought
    · subst same
      simp [other]
    · simp [same]
  case sorted =>
    intro sorted
    exact (sets.sorted sorted).imp (sorted_erase · key) (sorted_erase · key)

theorem eraseAll (sets : stored.SetsId id direct fetched) {keys : List String}
    (others : idKey ∉ keys) : stored.SetsId id (direct.eraseAll keys) (fetched.eraseAll keys) := by
  unfold Members.eraseAll
  induction keys generalizing direct fetched with
  | nil => exact sets
  | cons first rest induction =>
      rcases not_or.mp (mt List.mem_cons.mpr others) with ⟨other, later⟩
      exact induction (sets.erase (Ne.symm other)) later

theorem insert (sets : stored.SetsId id direct fetched) {key : String} (other : key ≠ idKey)
    (value : Json) : stored.SetsId id (direct.insert key value) (fetched.insert key value) := by
  constructor
  case looks =>
    intro sought
    rw [get?_insert, get?_insert, sets.looks]
    by_cases same : key = sought
    · subst same
      simp [other]
    · simp [same]
  case sorted =>
    intro sorted
    exact (sets.sorted sorted).imp (sorted_insert · key value) (sorted_insert · key value)

theorem renameField (sets : stored.SetsId id direct fetched) {source target : String}
    (away : source ≠ idKey) (onto : target ≠ idKey) :
    stored.SetsId id (Event.renameField direct source target)
      (Event.renameField fetched source target) := by
  unfold Event.renameField
  rw [sets.other away]
  cases direct.get? source with
  | none => exact sets
  | some value => exact (sets.erase away).insert onto value

theorem renameTimes (sets : stored.SetsId id direct fetched) :
    stored.SetsId id (Event.renameTimes direct) (Event.renameTimes fetched) :=
  (sets.renameField (by decide) (by decide)).renameField (by decide) (by decide)

end SetsId

theorem eraseAll_withId_eraseAll (stored : Members) (id : String) {keys : List String}
    (others : Redaction.idKey ∉ keys) :
    stored.SetsId id (stored.eraseAll keys)
      ((Redaction.withId id (stored.eraseAll keys)).eraseAll keys) := by
  have fetched := (SetsId.of_withId (stored.eraseAll keys) id).eraseAll others
  have kept : (stored.eraseAll keys).has Redaction.idKey = stored.has Redaction.idKey := by
    rw [has_eq_isSome, has_eq_isSome, get?_eraseAll, if_neg others]
  constructor
  case looks =>
    intro key
    rw [fetched.looks, kept]
    split
    · rfl
    · rw [get?_eraseAll, get?_eraseAll]
      split <;> rfl
  case sorted =>
    intro sorted
    have once := sorted_eraseAll sorted keys
    exact ⟨once, (fetched.sorted once).2⟩

end Members

/-! ## Events of fetched documents -/

theorem Collection.idKey_not_internal (collection : Collection) :
    Redaction.idKey ∉ collection.internalFields := by
  cases collection <;> decide

namespace Event

/-- Two events that say the same, of documents that differ in the id of their row at most. -/
structure Agrees (stored : Members) (rowId : String) (direct fetched : Event) : Prop where
  collection : fetched.collection = direct.collection
  operation : fetched.operation = direct.operation
  id : fetched.id = direct.id
  document : stored.SetsId rowId direct.document fetched.document

namespace Agrees

variable {stored : Members} {rowId : String} {direct fetched : Event}

theorem name (agrees : Agrees stored rowId direct fetched) : fetched.name = direct.name := by
  rw [Event.name, Event.name, agrees.collection, agrees.operation]

theorem policies (agrees : Agrees stored rowId direct fetched) :
    fetched.policies = direct.policies := by
  rw [Event.policies, Event.policies, agrees.document.other (by decide)]

theorem textField (agrees : Agrees stored rowId direct fetched) {field : String}
    (other : field ≠ Redaction.idKey) : fetched.textField field = direct.textField field := by
  rw [Event.textField, Event.textField, agrees.document.other other, agrees.collection, agrees.id]

theorem prepareComment (agrees : Agrees stored rowId direct fetched) (application : String) :
    Agrees stored rowId (direct.prepareComment application)
      (fetched.prepareComment application) where
  collection := agrees.collection
  operation := agrees.operation
  id := agrees.id
  document := agrees.document.renameTimes.insert (by decide) _

theorem prepareThread (agrees : Agrees stored rowId direct fetched) :
    Agrees stored rowId direct.prepareThread fetched.prepareThread where
  collection := agrees.collection
  operation := agrees.operation
  id := agrees.id
  document := agrees.document.renameTimes.insert (by decide) _

theorem prepareNotification (agrees : Agrees stored rowId direct fetched) :
    match direct.prepareNotification with
    | .error defect => fetched.prepareNotification = .error defect
    | .ok (owner, prepared) => ∃ other, fetched.prepareNotification = .ok (owner, other) ∧
        Agrees stored rowId prepared other := by
  have owner : fetched.textField "forUsername" = direct.textField "forUsername" :=
    agrees.textField (by decide)
  have className : fetched.textField "_class" = direct.textField "_class" :=
    agrees.textField (by decide)
  simp only [Event.prepareNotification, owner, className, bind, Except.bind, pure, Except.pure]
  cases direct.textField "forUsername" with
  | error defect => rfl
  | ok named =>
      cases direct.textField "_class" with
      | error defect => rfl
      | ok classed =>
          exact ⟨_, rfl, agrees.collection, agrees.operation, agrees.id,
            (agrees.document.erase (by decide)).insert (by decide) _⟩

end Agrees

/-- Whether a document is marked as deleted can be seen after the internal fields are gone as
well as before. -/
theorem agrees_made (collection : Collection) (operation : Operation) (id : String)
    (stored : Members) :
    let redacted := stored.eraseAll collection.internalFields
    Agrees stored id (made ⟨collection, operation, id, some stored⟩ stored)
      (made ⟨collection, operation, id, some (Redaction.withId id redacted)⟩
        (Redaction.withId id redacted)) := by
  intro redacted
  have visible : stored.SetsId id redacted
      ((Redaction.withId id redacted).eraseAll collection.internalFields) :=
    stored.eraseAll_withId_eraseAll id collection.idKey_not_internal
  refine ⟨rfl, ?operation, rfl, visible.erase (by decide)⟩
  simp only [made, isMarkedDeleted, visible.other (show deletionMark ≠ Redaction.idKey by decide)]
  rfl

def withRowId (event : Event) (stored : Members) (rowId : String) : Event :=
  if stored.has Redaction.idKey then event
  else { event with document := event.document.insert Redaction.idKey (.string rowId) }

theorem Agrees.eq_withRowId {stored : Members} {rowId : String} {direct fetched : Event}
    (agrees : Agrees stored rowId direct fetched) (sorted : stored.Sorted) :
    fetched = direct.withRowId stored rowId := by
  have shown := agrees.document.exact sorted
  rcases agrees with ⟨collection, operation, id, _⟩
  cases fetched
  unfold withRowId
  cases own : stored.has Redaction.idKey with
  | true =>
      rw [own, if_pos rfl] at shown
      simp only at collection operation id shown
      rw [if_pos rfl, collection, operation, id, shown]
  | false =>
      rw [own, if_neg Bool.false_ne_true] at shown
      simp only at collection operation id shown
      rw [if_neg Bool.false_ne_true, collection, operation, id, shown]

/-- What is made of a fetched document is what is made of the stored one. -/
structure ComesTo (stored : Members) (rowId : String) (direct fetched : Event) : Prop where
  same : fetched = direct.withRowId stored rowId
  name : fetched.name = direct.name
  policies : fetched.policies = direct.policies
  threadId : fetched.threadId = direct.threadId
  comment : ∀ application, fetched.prepareComment application =
    (direct.prepareComment application).withRowId stored rowId
  thread : fetched.prepareThread = direct.prepareThread.withRowId stored rowId
  notification : fetched.prepareNotification =
    direct.prepareNotification.map fun prepared =>
      (prepared.1, prepared.2.withRowId stored rowId)

theorem Agrees.comesTo {stored : Members} {rowId : String} {direct fetched : Event}
    (agrees : Agrees stored rowId direct fetched) (sorted : stored.Sorted) :
    ComesTo stored rowId direct fetched where
  same := agrees.eq_withRowId sorted
  name := agrees.name
  policies := agrees.policies
  threadId := agrees.textField (by decide)
  comment application := (agrees.prepareComment application).eq_withRowId sorted
  thread := agrees.prepareThread.eq_withRowId sorted
  notification := by
    have both := agrees.prepareNotification
    cases prepared : direct.prepareNotification with
    | error defect =>
        rw [prepared] at both
        exact both
    | ok owned =>
        rw [prepared] at both
        rcases both with ⟨other, found, alike⟩
        rw [found, alike.eq_withRowId sorted]
        rfl

end Event

/-! ## Fetching -/

namespace Json

variable {names : List String} {value shown : Json}

theorem of_without?_object {members : Members}
    (without : value.without? names = some (.object members)) :
    ∃ stored : Members, value = .object stored ∧ members = stored.eraseAll names := by
  cases value with
  | object stored =>
      cases without
      exact ⟨stored, rfl, rfl⟩
  | _ => cases without

theorem object?_of_without? (without : value.without? names = some shown)
    (other : shown.object? = none) : value.object? = none := by
  cases value with
  | object stored =>
      cases without
      cases other
  | _ => rfl

end Json

namespace Redaction

/-- A document as it is shown: every member that is not withheld as it was, the id of the row
where there was no id, and nothing else. -/
structure Shows (withheld : List String) (id : String) (stored shown : Members) : Prop where
  kept : ∀ key value, key ∉ withheld → stored.get? key = some value →
    shown.get? key = some value
  identified : stored.get? idKey = none → shown.get? idKey = some (.string id)
  only : ∀ key value, shown.get? key = some value →
    (key ∉ withheld ∧ stored.get? key = some value) ∨
      (key = idKey ∧ stored.get? idKey = none ∧ value = .string id)
  sorted : stored.Sorted → shown.Sorted

variable {withheld : List String} {id : String} {stored shown : Members}

theorem shows_withId (id : String) (members : Members) :
    Shows [] id members (withId id members) := by
  have sets := Members.SetsId.of_withId members id
  have absent (missing : members.get? idKey = none) : members.has idKey = false := by
    rw [Members.has_eq_isSome, missing, Option.isSome_none]
  constructor
  case kept =>
    intro key value _ found
    rw [sets.looks, if_neg, found]
    rintro ⟨rfl, missing⟩
    simp [Members.has_eq_isSome, found] at missing
  case identified =>
    intro missing
    rw [sets.looks, if_pos ⟨rfl, absent missing⟩]
  case only =>
    intro key value found
    rw [sets.looks] at found
    split at found
    · rename_i missing
      rw [Members.has_eq_isSome, Option.isSome_eq_false_iff, Option.isNone_iff_eq_none] at missing
      exact .inr ⟨missing.1, missing.2, (Option.some.inj found).symm⟩
    · exact .inl ⟨List.not_mem_nil, found⟩
  case sorted => exact fun sorted => (sets.sorted sorted).2

theorem Shows.of_eraseAll (shows : Shows [] id (stored.eraseAll withheld) shown)
    (visible : idKey ∉ withheld) : Shows withheld id stored shown := by
  have own : (stored.eraseAll withheld).get? idKey = stored.get? idKey := by
    rw [Members.get?_eraseAll, if_neg visible]
  constructor
  case kept =>
    intro key value outside found
    refine shows.kept key value List.not_mem_nil ?_
    rw [Members.get?_eraseAll, if_neg outside, found]
  case identified => exact fun missing => shows.identified (own.trans missing)
  case only =>
    intro key value found
    rcases shows.only key value found with ⟨_, given⟩ | ⟨same, missing, given⟩
    · rw [Members.get?_eraseAll] at given
      split at given
      · cases given
      · rename_i outside
        exact .inl ⟨outside, given⟩
    · exact .inr ⟨same, own.symm.trans missing, given⟩
  case sorted => exact fun sorted => shows.sorted (Members.sorted_eraseAll sorted withheld)

inductive ShowsRow (withheld : List String) (id : String) :
    Option Json → Option Members → Prop where
  | gone : ShowsRow withheld id none none
  | shapeless {value : Json} (other : value.object? = none) :
      ShowsRow withheld id (some value) none
  | shown {stored shown : Members} (shows : Shows withheld id stored shown) :
      ShowsRow withheld id (some (.object stored)) (some shown)

end Redaction

namespace StoreFeed

variable {σ : Type}

/-- A store that answers does so with what it holds, without what is to be withheld. -/
def Withholds (query : DocumentQuery (StateM σ))
    (held : σ → Collection → String → Option Json) : Prop :=
  ∀ collection withheld id store given after,
    (query collection withheld id).run store = (.ok given, after) →
      (held store collection id = none ∧ given = none) ∨
        ∃ value shown, held store collection id = some value ∧ given = some shown ∧
          value.without? withheld = some shown

namespace Withholds

variable {query : DocumentQuery (StateM σ)} {held : σ → Collection → String → Option Json}
  (withholds : Withholds query held) {collection : Collection} {withheld : List String}
  {id : String} {store after : σ}

include withholds

theorem gone (given : (query collection withheld id).run store = (.ok none, after)) :
    held store collection id = none := by
  rcases withholds _ _ _ _ _ _ given with ⟨unheld, _⟩ | ⟨_, _, _, impossible, _⟩
  · exact unheld
  · cases impossible

theorem shown {shown : Json}
    (given : (query collection withheld id).run store = (.ok (some shown), after)) :
    ∃ value, held store collection id = some value ∧ value.without? withheld = some shown := by
  rcases withholds _ _ _ _ _ _ given with ⟨_, impossible⟩ | ⟨value, _, present, same, without⟩
  · cases impossible
  · cases same
    exact ⟨value, present, without⟩

theorem object {members : Members}
    (given : (query collection withheld id).run store = (.ok (some (.object members)), after)) :
    ∃ stored : Members, held store collection id = some (.object stored) ∧
      members = stored.eraseAll withheld := by
  rcases withholds.shown given with ⟨value, present, without⟩
  rcases Json.of_without?_object without with ⟨stored, rfl, rfl⟩
  exact ⟨stored, present, rfl⟩

theorem get?_eq_none {members : Members}
    (given : (query collection withheld id).run store = (.ok (some (.object members)), after)) :
    ∀ field ∈ withheld, members.get? field = none := by
  intro field internal
  rcases withholds.object given with ⟨stored, _, rfl⟩
  rw [Members.get?_eraseAll, if_pos internal]

end Withholds

theorem announced_run {query : DocumentQuery (StateM σ)} {collection : Collection} {id : String}
    {before after : σ} {operation : Operation} (live : operation ≠ .delete)
    {answer : Except String (Option Json)}
    (answers : (query collection collection.internalFields id).run before = (answer, after)) :
    (announced query collection ⟨operation, id⟩).run before =
      (answered collection ⟨operation, id⟩ answer, after) := by
  have fetches : announced query collection ⟨operation, id⟩ =
      (query collection collection.internalFields id >>= fun answer =>
        pure (answered collection ⟨operation, id⟩ answer)) := by
    unfold announced
    cases operation with
    | delete => exact absurd rfl live
    | _ => rfl
  rw [fetches, StateT.run_bind, answers]
  rfl

end StoreFeed

namespace Store

variable {store after : Store} {collection : Collection} {α : Type}
  {read : Table String Json → Except String α}

def asked (store : Store) (collection : Collection) : Store :=
  { store with queried := store.queried ++ [collection.table] }

theorem ask_run (reached : store.link.fault? = none) (answers : store.isFailing = false)
    (read : Table String Json → Except String α) :
    (ask collection read).run store =
      ((read (store.rows collection)).mapError queryFailure, store.asked collection) := by
  unfold ask asked
  simp only [StateT.run_bind, StateT.run_get, pure_bind, reached, answers, Bool.false_eq_true,
    if_false, StateT.run_set, StateT.run_pure]
  rfl

theorem read_of_ask {given : α} (ran : (ask collection read).run store = (.ok given, after)) :
    read (store.rows collection) = .ok given := by
  by_cases reached : store.link.fault? = none ∧ store.isFailing = false
  · rw [ask_run reached.1 reached.2] at ran
    have found := congrArg Prod.fst ran
    cases answer : read (store.rows collection) with
    | error cause => simp [answer, Except.mapError] at found
    | ok value => simpa [answer, Except.mapError] using found
  · unfold ask at ran
    simp only [StateT.run_bind, StateT.run_get, pure_bind] at ran
    cases fault : store.link.fault? with
    | some fault =>
        simp only [fault] at ran
        cases ran
    | none =>
        have failing : store.isFailing = true := by simpa [fault] using reached
        simp only [fault, failing] at ran
        cases ran

theorem withholds_document :
    StoreFeed.Withholds document fun store collection id => (store.rows collection).get? id := by
  intro collection withheld id store given after ran
  have found := read_of_ask ran
  cases row : (store.rows collection).get? id with
  | none =>
      simp only [row, Except.ok.injEq] at found
      exact .inl ⟨row, found.symm⟩
  | some value =>
      cases without : value.without? withheld with
      | none => simp [row, without] at found
      | some shown =>
          simp only [row, without, Except.ok.injEq] at found
          exact .inr ⟨value, shown, row, found.symm, without⟩

end Store

namespace StoreFeed

/-- A stored object that is fetched for a change becomes the event that it becomes itself, and
is prepared alike. A stored array shows no document, and its change is dropped. Where a single
value is stored there is no change at all. -/
theorem fetched_comes_to_stored (store : Store) (collection : Collection) (id : String)
    {operation : Operation} {value : Json} (live : operation ≠ .delete)
    (reached : store.link.fault? = none) (answers : store.isFailing = false)
    (held : (store.rows collection).get? id = some value) :
    ∃ item, (announced Store.document collection ⟨operation, id⟩).run store =
        (item, store.asked collection) ∧
      (∀ stored : Members, value = .object stored → stored.Sorted →
        ∃ fetched direct event, item = .ok fetched ∧
          Event.ofChange ⟨collection, operation, id, some stored⟩ = .ok direct ∧
          Event.ofChange fetched = .ok event ∧ direct.ComesTo stored id event) ∧
      (∀ items, value = .array items →
        ∃ fetched : Change, item = .ok fetched ∧ fetched.document = none ∧
          ∀ {m : Type → Type} [Monad m] (services : Services m),
            FanOut.handle services fetched =
              pure (.dropped (.defect (.missingDocument collection id)))) ∧
      (value.object? = none → (∀ items, value ≠ .array items) →
        item = .error (.database ("Failed to fetch " ++ collection.name ++ " " ++ id ++ ": " ++
          "error returned from database: cannot delete from scalar"))) := by
  refine ⟨_, announced_run live (Store.ask_run reached answers _), ?object, ?array, ?scalar⟩
  all_goals simp only [held]
  case object =>
    rintro stored rfl sorted
    exact ⟨_, _, _, rfl, Event.ofChange_eq_made rfl, Event.ofChange_eq_made rfl,
      (Event.agrees_made collection operation id stored).comesTo sorted⟩
  case array =>
    rintro items rfl
    refine ⟨_, rfl, rfl, fun services => ?_⟩
    unfold FanOut.handle Event.ofChange
    rfl
  case scalar =>
    intro shapeless single
    have refused : value.without? collection.internalFields = none := by
      cases value with
      | object members => cases shapeless
      | array items => exact absurd rfl (single items)
      | _ => rfl
    have cause : Store.queryFailure "cannot delete from scalar" =
        "error returned from database: cannot delete from scalar" := by decide
    rw [refused, ← cause]
    rfl

/-- A comment is marked as deleted and has no id of its own. What stands in the second row is a
list that names an internal field, and in the third a number. -/
theorem fetched_comes_to_stored_of_marked :
    let stored : Members :=
      [("_class", .string "a.B"), ("deleted", .bool true), ("deletedAt", .null),
        ("threadId", .string "5")]
    let shown : Members := [("_id", .string "1"), ("threadId", .string "5")]
    let rows : Table String Json := ((Table.set {} "1" (.object stored)).set "2"
      (.array [.string "_class", .string "b"])).set "3" (.number (.integer 5))
    let store : Store := { rows := fun _ => rows }
    let reading (operation : Operation) (id : String) :=
      (announced Store.document .comment ⟨operation, id⟩).run store
    (∃ fetched direct event, reading .update "1" = (.ok fetched, store.asked .comment) ∧
        Event.ofChange ⟨.comment, .update, "1", some stored⟩ = .ok direct ∧
        Event.ofChange fetched = .ok event ∧ direct.ComesTo stored "1" event ∧
        event.name = "delete:comment" ∧ event.document = shown) ∧
      (∃ fetched : Change, reading .insert "2" = (.ok fetched, store.asked .comment) ∧
        fetched.document = none) ∧
      reading .insert "3" = (.error (.database ("Failed to fetch comment 3: " ++
        "error returned from database: cannot delete from scalar")), store.asked .comment) := by
  intro stored shown rows store reading
  have sorted : stored.Sorted := by
    simp only [stored, Members.Sorted]
    decide
  refine ⟨?marked, ?list, ?number⟩
  case marked =>
    rcases fetched_comes_to_stored store .comment "1"
      (show Operation.update ≠ .delete by decide) rfl rfl rfl with ⟨item, ran, agrees, _, _⟩
    rcases agrees stored rfl sorted with ⟨fetched, direct, event, rfl, plain, made, comesTo⟩
    cases ran
    cases made
    exact ⟨_, direct, _, rfl, plain, rfl, comesTo, rfl, rfl⟩
  case list =>
    rcases fetched_comes_to_stored store .comment "2"
      (show Operation.insert ≠ .delete by decide) rfl rfl rfl with ⟨item, ran, _, dropped, _⟩
    rcases dropped _ rfl with ⟨fetched, rfl, undocumented, _⟩
    exact ⟨fetched, ran, undocumented⟩
  case number =>
    rcases fetched_comes_to_stored store .comment "3"
      (show Operation.insert ≠ .delete by decide) rfl rfl rfl with ⟨item, ran, _, _, failed⟩
    rw [failed rfl nofun] at ran
    exact ran

/-- A stored null is no object, and neither does it yield a change. -/
theorem null_yields_no_change :
    let store : Store := { rows := fun _ => Table.set {} "1" .null }
    Json.null.object? = none ∧
      ∀ change, ((announced Store.document .comment ⟨.insert, "1"⟩).run store).1 ≠ .ok change := by
  refine ⟨rfl, fun change yielded => ?_⟩
  cases yielded

end StoreFeed

end SharedEditing
