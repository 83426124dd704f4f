import SharedEditing.Proofs.Json.Records
import SharedEditing.Proofs.Store.Redaction

/-! # What the feed of the store yields

A listener hears announcements until it fails. Each of them becomes one item, in order, and
which one depends on its own text and on what the store answers to it. Relations say what a
text announces and what an announcement becomes, and the feed is what they allow and nothing
else. -/

namespace SharedEditing

/-! ## Texts of announcements -/

theorem Operation.ofName?_eq_some_iff {name : String} {operation : Operation} :
    ofName? name = some operation ↔ name = operation.name := by
  constructor
  · intro found
    have named := List.find?_some found
    simp only [beq_iff_eq] at named
    exact named.symm
  · rintro rfl
    cases operation <;> rfl

namespace Announcement

open Written

/-- An announcement as it is written: an object that names the operation once and the id once,
among any other members, or an array of the two. -/
inductive IsWritten (announcement : Announcement) : Written → Prop where
  | object {members : List (Option String × Written)} {keyed : List (String × Written)}
      {operation id : Written} (keys : keyed? members = some keyed)
      (operations : occurrences keyed "operationType" = [operation])
      (ids : occurrences keyed "id" = [id])
      (named : operation.choice? = some announcement.operation.name)
      (identified : id.string? = some announcement.id) :
      IsWritten announcement (.object members)
  | array {operation id : Written}
      (named : operation.choice? = some announcement.operation.name)
      (identified : id.string? = some announcement.id) :
      IsWritten announcement (.array [operation, id])

variable {announcement other : Announcement} {written : Written} {text : String}

theorem fields?_declared_eq_some_iff {operation id : Written} :
    fields? declared written = some [some operation, some id] ↔
      (∃ members keyed, written = .object members ∧ keyed? members = some keyed ∧
        occurrences keyed "operationType" = [operation] ∧ occurrences keyed "id" = [id]) ∨
      written = .array [operation, id] := by
  have places (items : List Written) :
      places? declared items = some [some operation, some id] ↔ items = [operation, id] := by
    rcases items with _ | ⟨one, _ | ⟨two, _ | ⟨three, more⟩⟩⟩ <;> simp [declared, places?]
  rw [fields?_eq_some_iff]
  simp only [places, exists_eq_right]
  simp [declared, member?_refused_eq_some_iff]

theorem record?_eq_some_iff :
    record? written = some announcement ↔ announcement.IsWritten written := by
  unfold record?
  constructor
  · intro read
    split at read
    · rename_i operation id fields
      simp only [Option.bind_eq_bind, Option.pure_def, Option.bind_eq_some_iff,
        Operation.ofName?_eq_some_iff] at read
      rcases read with ⟨_, named, _, rfl, _, identified, same⟩
      cases same
      rcases fields?_declared_eq_some_iff.mp fields with
        ⟨members, keyed, rfl, keys, operations, ids⟩ | rfl
      · exact .object keys operations ids named identified
      · exact .array named identified
    · cases read
  · intro stands
    have reads {operation id : Written}
        (fields : fields? declared written = some [some operation, some id])
        (named : operation.choice? = some announcement.operation.name)
        (identified : id.string? = some announcement.id) :
        record? written = some announcement := by
      simp [record?, fields, named, identified, Operation.ofName?_eq_some_iff.mpr rfl]
    cases stands with
    | object keys operations ids named identified =>
        exact reads (fields?_declared_eq_some_iff.mpr
          (.inl ⟨_, _, rfl, keys, operations, ids⟩)) named identified
    | array named identified =>
        exact reads (fields?_declared_eq_some_iff.mpr (.inr rfl)) named identified

def StandsIn (announcement : Announcement) (text : String) : Prop :=
  ∃ written, Written.ofText? text = some written ∧ announcement.IsWritten written

example : (Announcement.mk .insert "1").StandsIn "[\"insert\",\"1\"]" := by
  refine ⟨.array [.string "insert", .string "1"], ?_, .array rfl rfl⟩
  simp only [Written.ofText?, String.reduceToList]
  rfl

theorem standsIn_iff :
    announcement.StandsIn text ↔ (Written.ofText? text).bind record? = some announcement := by
  simp only [StandsIn, Option.bind_eq_some_iff, record?_eq_some_iff]

theorem StandsIn.unique (stands : announcement.StandsIn text) (also : other.StandsIn text) :
    announcement = other := by
  rw [standsIn_iff] at stands also
  exact Option.some.inj (stands.symm.trans also)

theorem ofText_of_standsIn (stands : announcement.StandsIn text) (named : announcement.id ≠ "") :
    ofText text = .ok announcement := by
  have filled : announcement.id.isEmpty = false := by simpa using named
  unfold ofText
  simp [standsIn_iff.mp stands, filled]

theorem ofText_of_anonymous {operation : Operation}
    (stands : (Announcement.mk operation "").StandsIn text) : ofText text = .error .emptyId := by
  unfold ofText
  simp [standsIn_iff.mp stands]

theorem ofText_of_silent (silent : ∀ announcement : Announcement, ¬ announcement.StandsIn text) :
    ofText text = .error .unreadable := by
  unfold ofText
  cases read : (Written.ofText? text).bind record? with
  | none => rfl
  | some announcement => exact absurd (standsIn_iff.mpr read) (silent announcement)

end Announcement

/-! ## Items -/

namespace StoreFeed

variable {σ : Type}

/-- What the text of an announcement becomes, and how it leaves the store. Only an announcement
with an id, and not of a deletion, asks the store, and it asks for its own row without the
internal fields. -/
inductive Becomes (query : DocumentQuery (StateM σ)) (collection : Collection) (store : σ)
    (text : String) : FeedItem → σ → Prop where
  | unreadable (silent : ∀ announcement : Announcement, ¬ announcement.StandsIn text) :
      Becomes query collection store text
        (.error (.decode collection.channel Announcement.Fault.unreadable.message)) store
  | anonymous {operation : Operation} (stands : (Announcement.mk operation "").StandsIn text) :
      Becomes query collection store text
        (.error (.decode collection.channel Announcement.Fault.emptyId.message)) store
  | deleted {id : String} (stands : (Announcement.mk .delete id).StandsIn text)
      (named : id ≠ "") :
      Becomes query collection store text (.ok ⟨collection, .delete, id, none⟩) store
  | unanswered {operation : Operation} {id reason : String} {after : σ}
      (stands : (Announcement.mk operation id).StandsIn text) (named : id ≠ "")
      (live : operation ≠ .delete)
      (failed : (query collection collection.internalFields id).run store =
        (.error reason, after)) :
      Becomes query collection store text
        (.error (.database ("Failed to fetch " ++ collection.name ++ " " ++ id ++ ": " ++ reason)))
        after
  | missing {operation : Operation} {id : String} {after : σ}
      (stands : (Announcement.mk operation id).StandsIn text) (named : id ≠ "")
      (live : operation ≠ .delete)
      (gone : (query collection collection.internalFields id).run store = (.ok none, after)) :
      Becomes query collection store text (.ok ⟨collection, operation, id, none⟩) after
  | shapeless {operation : Operation} {id : String} {value : Json} {after : σ}
      (stands : (Announcement.mk operation id).StandsIn text) (named : id ≠ "")
      (live : operation ≠ .delete)
      (given : (query collection collection.internalFields id).run store =
        (.ok (some value), after))
      (other : value.object? = none) :
      Becomes query collection store text (.ok ⟨collection, operation, id, none⟩) after
  | fetched {operation : Operation} {id : String} {members document : Members} {after : σ}
      (stands : (Announcement.mk operation id).StandsIn text) (named : id ≠ "")
      (live : operation ≠ .delete)
      (given : (query collection collection.internalFields id).run store =
        (.ok (some (.object members)), after))
      (shows : Redaction.Shows [] id members document) :
      Becomes query collection store text (.ok ⟨collection, operation, id, some document⟩) after

variable {query : DocumentQuery (StateM σ)} {collection : Collection} {store after : σ}
  {text : String} {feedItem : FeedItem}

theorem item_run_of_fault {fault : Announcement.Fault}
    (refused : Announcement.ofText text = .error fault) :
    (item query collection text).run store =
      (.error (.decode collection.channel fault.message), store) := by
  unfold item
  rw [refused]
  rfl

theorem item_of_standsIn {announcement : Announcement} (stands : announcement.StandsIn text)
    (named : announcement.id ≠ "") :
    item query collection text = announced query collection announcement := by
  unfold item
  rw [Announcement.ofText_of_standsIn stands named]

theorem item_run_of_live {operation : Operation} {id : String}
    (stands : (Announcement.mk operation id).StandsIn text) (named : id ≠ "")
    (live : operation ≠ .delete) {answer : Except String (Option Json)}
    (answers : (query collection collection.internalFields id).run store = (answer, after)) :
    (item query collection text).run store =
      (answered collection ⟨operation, id⟩ answer, after) := by
  rw [item_of_standsIn stands named, announced_run live answers]

theorem becomes_of_answer {operation : Operation} {id : String}
    (stands : (Announcement.mk operation id).StandsIn text) (named : id ≠ "")
    (live : operation ≠ .delete) {answer : Except String (Option Json)}
    (answers : (query collection collection.internalFields id).run store = (answer, after)) :
    Becomes query collection store text (answered collection ⟨operation, id⟩ answer) after := by
  cases answer with
  | error reason => exact .unanswered stands named live answers
  | ok given =>
      cases given with
      | none => exact .missing stands named live answers
      | some value =>
          cases value with
          | object members =>
              exact .fetched stands named live answers (Redaction.shows_withId id members)
          | _ => exact .shapeless stands named live answers rfl

theorem becomes_item (query : DocumentQuery (StateM σ)) (collection : Collection) (store : σ)
    (text : String) :
    Becomes query collection store text ((item query collection text).run store).1
      ((item query collection text).run store).2 := by
  by_cases announces : ∃ announcement : Announcement, announcement.StandsIn text
  · rcases announces with ⟨⟨operation, id⟩, stands⟩
    by_cases named : id = ""
    · subst named
      rw [item_run_of_fault (Announcement.ofText_of_anonymous stands)]
      exact .anonymous stands
    · by_cases deletion : operation = .delete
      · subst deletion
        rw [item_of_standsIn stands named]
        exact .deleted stands named
      · rw [item_run_of_live stands named deletion rfl]
        exact becomes_of_answer stands named deletion rfl
  · rw [item_run_of_fault (Announcement.ofText_of_silent (not_exists.mp announces))]
    exact .unreadable (not_exists.mp announces)

/-- Where the store answers with what it holds, a change shows its row as it is then. -/
theorem Becomes.showsRow {change : Change}
    (becomes : Becomes query collection store text (.ok change) after)
    {held : σ → Collection → String → Option Json} (withholds : Withholds query held)
    (live : change.operation ≠ .delete) :
    Redaction.ShowsRow collection.internalFields change.id (held store collection change.id)
      change.document := by
  cases becomes with
  | deleted => exact absurd rfl live
  | missing _ _ _ gone =>
      rw [withholds.gone gone]
      exact .gone
  | shapeless _ _ _ given other =>
      rcases withholds.shown given with ⟨value, present, without⟩
      rw [present]
      exact .shapeless (Json.object?_of_without? without other)
  | fetched _ _ _ given shows =>
      rcases withholds.object given with ⟨stored, present, rfl⟩
      rw [present]
      exact .shown (shows.of_eraseAll collection.idKey_not_internal)

theorem Becomes.eq_of_still (becomes : Becomes query collection store text feedItem after)
    (still : ∀ id store, ((query collection collection.internalFields id).run store).2 = store) :
    after = store := by
  cases becomes with
  | unreadable | anonymous | deleted => rfl
  | unanswered _ _ _ answers | missing _ _ _ answers | shapeless _ _ _ answers
  | fetched _ _ _ answers => exact (congrArg Prod.snd answers).symm.trans (still _ _)

/-! ## Feeds -/

def announcedTexts : List Heard → List String
  | .payload text :: rest => text :: announcedTexts rest
  | _ => []

/-- Each text becomes one item, in order. The store is asked for the next one as the last one
left it. -/
inductive Yields (query : DocumentQuery (StateM σ)) (collection : Collection) :
    σ → List String → List FeedItem → σ → Prop where
  | nil (store : σ) : Yields query collection store [] [] store
  | cons {store between after : σ} {text : String} {texts : List String} {feedItem : FeedItem}
      {feed : List FeedItem} (first : Becomes query collection store text feedItem between)
      (rest : Yields query collection between texts feed after) :
      Yields query collection store (text :: texts) (feedItem :: feed) after

variable {heard : List Heard} {texts : List String} {feed : List FeedItem}

def feedOf (query : DocumentQuery (StateM σ)) (collection : Collection) (texts : List String)
    (store : σ) : List FeedItem × σ :=
  (items query collection (texts.map .payload)).run store

theorem items_eq_feedOf (query : DocumentQuery (StateM σ)) (collection : Collection)
    (heard : List Heard) (store : σ) :
    (items query collection heard).run store =
      feedOf query collection (announcedTexts heard) store := by
  refine congrFun (congrArg StateT.run ?_) store
  induction heard with
  | nil => rfl
  | cons first rest induction =>
      cases first with
      | payload text => rw [announcedTexts, List.map_cons, items, items, induction]
      | failure reason => rfl

theorem feedOf_cons (query : DocumentQuery (StateM σ)) (collection : Collection) (text : String)
    (texts : List String) (store : σ) :
    let first := (item query collection text).run store
    let rest := feedOf query collection texts first.2
    feedOf query collection (text :: texts) store = (first.1 :: rest.1, rest.2) := by
  simp only [feedOf, List.map_cons, items, StateT.run_bind]
  rfl

theorem feedOf_append (query : DocumentQuery (StateM σ)) (collection : Collection)
    (before rest : List String) (store : σ) :
    let front := feedOf query collection before store
    let back := feedOf query collection rest front.2
    feedOf query collection (before ++ rest) store = (front.1 ++ back.1, back.2) := by
  induction before generalizing store with
  | nil => rfl
  | cons text before induction =>
      simp only [List.cons_append, feedOf_cons, induction]

theorem yields_feedOf (query : DocumentQuery (StateM σ)) (collection : Collection)
    (texts : List String) (store : σ) :
    Yields query collection store texts (feedOf query collection texts store).1
      (feedOf query collection texts store).2 := by
  induction texts generalizing store with
  | nil => exact .nil store
  | cons text rest induction =>
      rw [feedOf_cons]
      exact .cons (becomes_item query collection store text) (induction _)

theorem Yields.length (yields : Yields query collection store texts feed after) :
    feed.length = texts.length := by
  induction yields with
  | nil store => rfl
  | cons first rest induction => rw [List.length_cons, List.length_cons, induction]

theorem length_feedOf (query : DocumentQuery (StateM σ)) (collection : Collection)
    (texts : List String) (store : σ) :
    (feedOf query collection texts store).1.length = texts.length :=
  (yields_feedOf query collection texts store).length

theorem feedOf_of_still
    (still : ∀ id store, ((query collection collection.internalFields id).run store).2 = store)
    (texts : List String) (store : σ) :
    (feedOf query collection texts store).1 =
      texts.map fun text => ((item query collection text).run store).1 := by
  induction texts with
  | nil => rfl
  | cons text rest induction =>
      have unchanged := (becomes_item query collection store text).eq_of_still still
      rw [feedOf_cons, List.map_cons, unchanged, induction]

theorem Yields.fetched (yields : Yields query collection store texts feed after)
    {change : Change} {document : Members} (yielded : .ok change ∈ feed)
    (present : change.document = some document) :
    ∃ asked members left,
      (query collection collection.internalFields change.id).run asked =
          (.ok (some (.object members)), left) ∧
        Redaction.Shows [] change.id members document := by
  induction yields with
  | nil store => cases yielded
  | cons first rest induction =>
      rcases List.mem_cons.mp yielded with same | later
      · cases first with
        | fetched stands named live given shows =>
            cases same
            cases present
            exact ⟨_, _, _, given, shows⟩
        | unreadable | anonymous | unanswered => cases same
        | deleted | missing | shapeless =>
            cases same
            cases present
      · exact induction later

structure ItemForEach (query : DocumentQuery (StateM σ)) (collection : Collection)
    (heard : List Heard) (store : σ) (feed : List FeedItem) (after : σ) : Prop where
  yields : Yields query collection store (announcedTexts heard) feed after
  count : feed.length = (announcedTexts heard).length
  /-- After a failure nothing is yielded and nothing is asked for. -/
  ends : ∀ reason later,
    (items query collection (heard ++ .failure reason :: later)).run store = (feed, after)
  /-- What comes later is what a feed yields that begins with the store as it is by then. -/
  memoryless : ∀ before rest, announcedTexts heard = before ++ rest → ∃ between,
    (items query collection (before.map .payload)).run store =
        (feed.take before.length, between) ∧
      (items query collection (rest.map .payload)).run between =
        (feed.drop before.length, after)
  /-- Where asking leaves the store as it is, each item depends on its own text alone. -/
  independent :
    (∀ id store, ((query collection collection.internalFields id).run store).2 = store) →
      feed = (announcedTexts heard).map fun text => ((item query collection text).run store).1
  identified : ∀ change document, .ok change ∈ feed → change.document = some document →
    document.has Redaction.idKey = true
  /-- What the store withholds is in no item. -/
  redacted : (∀ id store members after,
      (query collection collection.internalFields id).run store =
          (.ok (some (.object members)), after) →
        ∀ field ∈ collection.internalFields, Members.get? members field = none) →
    ∀ change document, .ok change ∈ feed → change.document = some document →
      ∀ field ∈ collection.internalFields, document.get? field = none
  /-- A change shows what the store holds when it comes to it. -/
  current : ∀ held, Withholds query held → ∀ before text rest change,
    announcedTexts heard = before ++ text :: rest → feed[before.length]? = some (.ok change) →
      change.operation ≠ .delete → ∃ earlier between,
        (items query collection (before.map .payload)).run store = (earlier, between) ∧
          Redaction.ShowsRow collection.internalFields change.id
            (held between collection change.id) change.document

theorem Yields.withheld (yields : Yields query collection store texts feed after)
    (withheld : ∀ id store members after,
      (query collection collection.internalFields id).run store =
          (.ok (some (.object members)), after) →
        ∀ field ∈ collection.internalFields, Members.get? members field = none)
    {change : Change} {document : Members} (yielded : .ok change ∈ feed)
    (present : change.document = some document) {field : String}
    (internal : field ∈ collection.internalFields) : document.get? field = none := by
  rcases yields.fetched yielded present with ⟨asked, members, left, given, shows⟩
  rw [Option.eq_none_iff_forall_ne_some]
  intro value found
  rcases shows.only field value found with ⟨_, shown⟩ | ⟨rfl, _⟩
  · rw [withheld change.id asked members left given field internal] at shown
    cases shown
  · exact collection.idKey_not_internal internal

/-- No feed of the store shows an internal field, whatever its rows hold. -/
theorem internal_fields_withheld (collection : Collection) (heard : List Heard) (store : Store)
    {change : Change} {document : Members}
    (yielded : .ok change ∈ ((items Store.document collection heard).run store).1)
    (present : change.document = some document) :
    ∀ field ∈ collection.internalFields, document.get? field = none := by
  rw [items_eq_feedOf] at yielded
  intro field internal
  exact (yields_feedOf Store.document collection (announcedTexts heard) store).withheld
    (fun _ _ _ _ => Store.withholds_document.get?_eq_none) yielded present internal

theorem announcedTexts_append_failure (heard later : List Heard) (reason : String) :
    announcedTexts (heard ++ .failure reason :: later) = announcedTexts heard := by
  induction heard with
  | nil => rfl
  | cons first rest induction =>
      cases first with
      | payload text => rw [List.cons_append, announcedTexts, announcedTexts, induction]
      | failure reason => rfl

/-- Each announcement that precedes the first failure of the listener becomes one item, in
order, and the feed ends there. -/
theorem one_item_for_each (query : DocumentQuery (StateM σ)) (collection : Collection)
    (heard : List Heard) (store : σ) :
    ∃ feed after, (items query collection heard).run store = (feed, after) ∧
      ItemForEach query collection heard store feed after := by
  have yields := yields_feedOf query collection (announcedTexts heard) store
  refine ⟨(feedOf query collection (announcedTexts heard) store).1,
    (feedOf query collection (announcedTexts heard) store).2,
    items_eq_feedOf query collection heard store, yields, yields.length, ?ends, ?memoryless,
    fun still => feedOf_of_still still _ store, ?identified, ?redacted, ?current⟩
  case ends =>
    intro reason later
    rw [items_eq_feedOf, announcedTexts_append_failure]
  case memoryless =>
    intro before rest parts
    have front := length_feedOf query collection before store
    refine ⟨(feedOf query collection before store).2, ?_, ?_⟩
    · rw [parts, feedOf_append, ← front, List.take_left]
      rfl
    · rw [parts, feedOf_append, ← front, List.drop_left]
      rfl
  case identified =>
    intro change document yielded present
    rcases yields.fetched yielded present with ⟨_, members, _, _, shows⟩
    rw [Members.has_eq_isSome]
    cases own : Members.get? members Redaction.idKey with
    | none => rw [shows.identified own, Option.isSome_some]
    | some value => rw [shows.kept _ value List.not_mem_nil own, Option.isSome_some]
  case redacted =>
    intro withheld change document yielded present field internal
    exact yields.withheld withheld yielded present internal
  case current =>
    intro held withholds before text rest change parts yielded live
    have front := length_feedOf query collection before store
    refine ⟨_, (feedOf query collection before store).2, rfl, ?_⟩
    rw [parts, feedOf_append, ← front, List.getElem?_append_right (Nat.le_refl _), Nat.sub_self,
      feedOf_cons, List.getElem?_cons_zero, Option.some.injEq] at yielded
    have becomes := becomes_item query collection (feedOf query collection before store).2 text
    rw [yielded] at becomes
    exact becomes.showsRow withholds live

end StoreFeed

end SharedEditing
