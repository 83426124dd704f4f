import Mathlib.Data.List.Forall2
import SharedEditing.Proofs.Feed.Settling
import SharedEditing.Proofs.Gateway.Offers

/-! # From the feed to the connections

A watcher of one collection next to a gateway. Every change that the watcher hands to
fan-out is fanned out to the connections that are there at that moment. In between the
gateway goes on, and others fan out the changes of other collections. -/

namespace SharedEditing

theorem sublistForall₂_append {α β : Type} {relation : α → β → Prop} {left more : List α}
    {right rest : List β} (first : List.SublistForall₂ relation left right)
    (second : List.SublistForall₂ relation more rest) :
    List.SublistForall₂ relation (left ++ more) (right ++ rest) := by
  rw [List.sublistForall₂_iff] at first second ⊢
  rcases first with ⟨some, related, kept⟩
  rcases second with ⟨others, relatedToo, keptToo⟩
  exact ⟨some ++ others, List.rel_append related relatedToo, kept.append keptToo⟩

/-! ## Notices of a collection -/

def ServerMessage.collection? : ServerMessage → Option Collection
  | .change notice =>
      match notice.payload with
      | .object [(key, _)] => Collection.all.find? fun collection => collection.payloadKey == key
      | _ => none
  | _ => none

theorem ServerMessage.collection?_notice (event : Event) :
    (ServerMessage.change event.notice).collection? = some event.collection := by
  unfold collection? Event.notice
  cases event.collection <;> rfl

theorem FanOut.collection_of_routed {lookup : ThreadLookup} {change : Change}
    {addressed : Addressed} (routed : routed lookup change = .ok addressed) :
    addressed.event.collection = change.collection := by
  rcases routed_eq_ok_iff.mp routed with ⟨document, _, sent⟩
  rw [route_made_eq_ok_iff] at sent
  cases collection : change.collection with
  | comment =>
      simp only [collection] at sent
      rcases sent with ⟨_, _, _, _, rfl⟩
      exact collection
  | commentThread =>
      simp only [collection] at sent
      subst sent
      exact collection
  | notification =>
      simp only [collection] at sent
      rcases sent with ⟨owner, prepared, finished, rfl⟩
      rcases (Event.prepareNotification_eq_ok_iff.mp finished).2 with ⟨_, _, rfl⟩
      exact collection

def noticesTo (client : ClientId) (collection : Collection) (postings : List Posting) :
    List ServerMessage :=
  (acceptedBy client postings).filter fun message => message.collection? == some collection

theorem noticesTo_append (client : ClientId) (collection : Collection)
    (postings more : List Posting) :
    noticesTo client collection (postings ++ more) =
      noticesTo client collection postings ++ noticesTo client collection more := by
  simp [noticesTo, acceptedBy]

theorem noticesTo_of_foreign {client : ClientId} {collection : Collection}
    {postings : List Posting}
    (foreign : ∀ posting ∈ postings, posting.letter.message.collection? ≠ some collection) :
    noticesTo client collection postings = [] := by
  unfold noticesTo acceptedBy
  rw [List.filter_eq_nil_iff]
  intro message accepted
  rcases List.mem_map.mp accepted with ⟨posting, kept, rfl⟩
  simpa using foreign posting (List.mem_of_mem_filter kept)

/-- A message reports a change if it is what becomes of it for some threads. -/
def Reports (message : ServerMessage) (change : Change) : Prop :=
  ∃ lookup addressed, FanOut.routed lookup change = .ok addressed ∧
    message = .change addressed.event.notice

namespace Gateway

variable (gateway : Gateway) (client : ClientId)

theorem collection?_of_relay {pointer : PointerEvent} {posting : Posting}
    (posted : posting ∈ (gateway.relay client pointer).postings) :
    posting.letter.message.collection? = none := by
  rcases of_relayed posted with ⟨identity, room, _, emitted⟩
  rw [(of_emitted emitted).1]
  rfl

theorem collection?_of_fanOut {lookup : ThreadLookup} {arrangement : Arrangement}
    {change : Change} {posting : Posting}
    (posted : posting ∈ (gateway.fanOut lookup arrangement.order change).postings) :
    posting.letter.message.collection? = some change.collection := by
  rcases of_fannedOut posted with ⟨addressed, routed, message, _⟩
  rw [message, ← FanOut.collection_of_routed routed]
  exact ServerMessage.collection?_notice addressed.event

theorem collection?_of_serve {event : ServiceEvent} {collection : Collection}
    (foreign : ∀ lookup arrangement change, event = .change lookup arrangement change →
      change.collection ≠ collection)
    {posting : Posting} (posted : posting ∈ (gateway.serve event).postings) :
    posting.letter.message.collection? ≠ some collection := by
  rcases source_of_posting posted with answered | ⟨sender, pointer, rfl, passed⟩ |
    ⟨lookup, arrangement, change, rfl, told⟩
  · rcases Observers.answer_of_letter answered with ⟨_, _, _, listed | farewell⟩
    · simp [listed, ServerMessage.collection?]
    · simp [farewell, ServerMessage.collection?]
  · simp [gateway.collection?_of_relay sender passed]
  · rw [gateway.collection?_of_fanOut told]
    exact fun same => foreign lookup arrangement change rfl (Option.some.inj same)

theorem noticesTo_of_fanOut (lookup : ThreadLookup) (arrangement : Arrangement)
    (change : Change) (collection : Collection) :
    List.SublistForall₂ Reports
      (noticesTo client collection (gateway.fanOut lookup arrangement.order change).postings)
      [change] := by
  cases routed : FanOut.routed lookup change with
  | error reason =>
      rw [fanOut_of_dropped routed]
      exact .nil
  | ok addressed =>
      rw [fanOut_of_routed routed]
      split
      · exact .nil
      · have served := arrangement.perm (targets gateway.registry addressed.audience)
        generalize
          arrangement.order (targets gateway.registry addressed.audience) = clients at served
        have distinct := served.nodup_iff.mpr (nodup_targets gateway.registry addressed.audience)
        have accepted : acceptedBy client
            (gateway.deliverTo clients addressed.event.notice).postings =
              if client ∈ clients ∧ gateway.outboxes.wouldAccept client = true
              then [.change addressed.event.notice] else [] := handedTo_deliverTo distinct
        unfold noticesTo
        simp only [accepted]
        split
        · rw [List.filter_cons, List.filter_nil]
          split
          · exact .cons ⟨lookup, addressed, routed, rfl⟩ .nil
          · exact .nil
        · exact .nil

end Gateway

/-! ## Runs -/

inductive NewsEvent where
  /-- Something happens to the watcher or around it. A change that is handed on is fanned
  out in this order. -/
  | watch (event : WatchEvent) (arrangement : Arrangement)
  | serve (event : ServiceEvent)

namespace NewsEvent

def watched? : NewsEvent → Option WatchEvent
  | watch event _ => some event
  | serve _ => none

def Foreign (collection : Collection) : NewsEvent → Prop
  | serve (.change _ _ change) => change.collection ≠ collection
  | _ => True

end NewsEvent

structure Newsroom where
  watch : Watch
  chronicle : Chronicle := {}

namespace Newsroom

def perform (newsroom : Newsroom) : NewsEvent → Newsroom
  | .watch event arrangement =>
      { watch := newsroom.watch.perform event
        chronicle :=
          match newsroom.watch.hands? event with
          | some change =>
              newsroom.chronicle.record
                (.change newsroom.watch.world.recorder.threads.find arrangement change)
          | none => newsroom.chronicle }
  | .serve event => { newsroom with chronicle := newsroom.chronicle.record event }

def start (collection : Collection) (policy : RestartPolicy) (seen : Nat) (world : FeedWorld)
    (observers : Observers) : Newsroom where
  watch := .start collection policy seen world
  chronicle := .of observers []

def run (newsroom : Newsroom) (events : List NewsEvent) : Newsroom := events.foldl perform newsroom

theorem run_concat (newsroom : Newsroom) (events : List NewsEvent) (event : NewsEvent) :
    newsroom.run (events ++ [event]) = (newsroom.run events).perform event := by
  simp [run, List.foldl_append]

theorem watch_run (newsroom : Newsroom) (events : List NewsEvent) :
    (newsroom.run events).watch = newsroom.watch.run (events.filterMap NewsEvent.watched?) := by
  induction events using List.reverseRecOn with
  | nil => rfl
  | append_singleton events event induction =>
      rw [run_concat, List.filterMap_append]
      cases event with
      | watch event arrangement =>
          rw [perform, induction]
          exact (newsroom.watch.run_concat _ event).symm
      | serve event =>
          have silent : [NewsEvent.serve event].filterMap NewsEvent.watched? = [] := rfl
          rw [perform, induction, silent, List.append_nil]

theorem notices_run (newsroom : Newsroom) {collection : Collection} {client : ClientId}
    (before : List.SublistForall₂ Reports
      (noticesTo client collection newsroom.chronicle.postings) newsroom.watch.handed)
    {events : List NewsEvent} (foreign : ∀ event ∈ events, event.Foreign collection) :
    List.SublistForall₂ Reports
      (noticesTo client collection (newsroom.run events).chronicle.postings)
      (newsroom.run events).watch.handed := by
  induction events using List.reverseRecOn with
  | nil => exact before
  | append_singleton events event induction =>
      -- Only a change that is handed on makes a notice of the collection, and one at most.
      have so := induction fun earlier member => foreign earlier (List.mem_append_left _ member)
      have apart := foreign event (List.mem_append_right _ (.head []))
      rw [run_concat]
      generalize newsroom.run events = newsroom at so ⊢
      cases event with
      | watch event arrangement =>
          simp only [perform, newsroom.watch.handed_perform]
          cases newsroom.watch.hands? event with
          | none => simpa using so
          | some change =>
              have report := newsroom.chronicle.gateway.noticesTo_of_fanOut client
                newsroom.watch.world.recorder.threads.find arrangement change collection
              simp only [Chronicle.record, noticesTo_append]
              exact sublistForall₂_append so report
      | serve event =>
          have silent : noticesTo client collection
              (newsroom.chronicle.gateway.serve event).postings = [] := by
            apply noticesTo_of_foreign
            intro posting posted
            apply newsroom.chronicle.gateway.collection?_of_serve _ posted
            intro lookup arrangement change same
            rw [same] at apart
            exact apart
          simp only [perform, Chronicle.record, noticesTo_append, silent, List.append_nil]
          exact so

/-- What the watcher hands to fan-out is what was published to it. -/
structure Faithful (newsroom : Newsroom) (collection : Collection) (published : List Change) :
    Prop where
  /-- What was put into the watcher's subscriptions was published in this order. -/
  published : newsroom.watch.put.Sublist published
  begun : newsroom.watch.handed <+: newsroom.watch.put
  /-- Unless the watcher was shut down, the rest is still queued. -/
  kept : newsroom.watch.watcher.exit? ≠ some .shutdown →
    newsroom.watch.put = newsroom.watch.handed ++ newsroom.watch.waiting
  /-- And the watcher gets to it by steps of its own, whatever each of them serves first. -/
  settles : ∀ preferences : List Preference,
    newsroom.watch.watcher.effort newsroom.watch.world ≤ preferences.length →
      let later := newsroom.watch.run (preferences.map .step)
      later.put = newsroom.watch.put ∧ later.watcher.Idle later.world ∧
        (later.watcher.exit? ≠ some .shutdown → later.handed = newsroom.watch.put)
  /-- Fan-out handles what is handed to it and nothing else. -/
  handles : ∀ preference after next,
    newsroom.watch.watcher.step preference newsroom.watch.world = some (after, next) →
      next.recorder =
        ((newsroom.watch.hands? (.step preference)).map fun change =>
          (newsroom.watch.world.recorder.handle change).2).getD newsroom.watch.world.recorder
  notices : ∀ client, List.SublistForall₂ Reports
    (noticesTo client collection newsroom.chronicle.postings) newsroom.watch.handed

/-- The changes of a collection are handed on once each and in the order of publication,
none is lost, and every connection is told of them in this order. A watcher that nobody
tells to end does not end so. -/
theorem faithful_run (collection : Collection) (policy : RestartPolicy) (seen : Nat)
    (world : FeedWorld) (observers : Observers) {events : List NewsEvent}
    (foreign : ∀ event ∈ events, event.Foreign collection) :
    let watched := events.filterMap NewsEvent.watched?
    let newsroom := (start collection policy seen world observers).run events
    newsroom.Faithful collection (watched.filterMap (WatchEvent.publishes? collection)) ∧
      (world.switch.isOn = false → world.switch.isHeld = true →
        (∀ event ∈ watched, event.Quiet) → newsroom.watch.watcher.exit? ≠ some .shutdown) := by
  intro watched newsroom
  have run : newsroom.watch = (Watch.start collection policy seen world).run watched :=
    watch_run _ events
  have tracked := (Watch.Tracked.start collection policy seen world).run watched
  rw [← run] at tracked
  have notices : ∀ client, List.SublistForall₂ Reports
      (noticesTo client collection newsroom.chronicle.postings) newsroom.watch.handed :=
    fun client => notices_run _ .nil foreign
  constructor
  · refine ⟨?published, tracked.begun, tracked.kept, ?settles, ?handles, notices⟩
    case published =>
      rw [run]
      exact Watch.put_sublist collection policy seen world watched
    case settles =>
      intro preferences enough later
      have put : later.put = newsroom.watch.put := newsroom.watch.put_steps preferences
      have idle : later.watcher.Idle later.world := Watch.idle_of_steps enough
      refine ⟨put, idle, fun remains => ?_⟩
      have kept := (tracked.run (preferences.map .step)).kept remains
      have nothing : later.waiting = [] := Watcher.waiting_of_settled idle
      rw [nothing, List.append_nil] at kept
      exact kept.symm.trans put
    case handles =>
      intro preference after next stepped
      have move := Watcher.move_of_step stepped
      simp only [Watch.hands?, stepped, Option.bind_some]
      exact move.recorder
  · intro off held quiet
    rw [run]
    exact (Watch.undisturbed_run collection policy seen off held quiet).remains

/-- The first of two changes is still queued when the subscription is ended, and an item
between them cannot be read. -/
theorem faithful_run_of_two :
    let change (id : String) : Change :=
      ⟨.commentThread, .insert, id, some [("policies", .array [.object
        [("permission", .string "read:commentThreads"), ("users", .array [.string "ann@x"])]])]⟩
    let step : NewsEvent := .watch (.step .switch) .plain
    let around (event : FeedEvent) : NewsEvent := .watch (.around event) .plain
    let events : List NewsEvent :=
      [.serve (.connect ⟨"a"⟩ .app ⟨4, [], true⟩),
        .serve (.login ⟨"a"⟩ (.ok ⟨"Ann", "ann@x"⟩)), step, step,
        around (.publish (change "1")), around (.fail .commentThread "torn"),
        around (.publish (change "2")), around (.turnSwitch false),
        around (.endStreams .commentThread), step, step, step, step]
    let newsroom := (start .commentThread {} 0 {} .standard).run events
    let watched := events.filterMap NewsEvent.watched?
    (∀ event ∈ events, event.Foreign .commentThread) ∧
      newsroom.watch.handed.length = 2 ∧
      (noticesTo ⟨"a"⟩ .commentThread newsroom.chronicle.postings).length = 2 ∧
      newsroom.Faithful .commentThread
          (watched.filterMap (WatchEvent.publishes? .commentThread)) ∧
        (({} : FeedWorld).switch.isOn = false → ({} : FeedWorld).switch.isHeld = true →
          (∀ event ∈ watched, event.Quiet) → newsroom.watch.watcher.exit? ≠ some .shutdown) := by
  intro change step around events newsroom watched
  have foreign : ∀ event ∈ events, event.Foreign .commentThread := by
    simp [events, step, around, NewsEvent.Foreign]
  exact ⟨foreign, by decide, by decide, faithful_run .commentThread {} 0 {} .standard foreign⟩

end Newsroom

end SharedEditing
