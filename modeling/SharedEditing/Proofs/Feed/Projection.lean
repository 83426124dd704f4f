import SharedEditing.Proofs.Change.Presentation
import SharedEditing.Proofs.Feed.Interleaving
import SharedEditing.Proofs.Feed.Newsroom

/-! # What belongs to one collection

Watchers share a feed and a recorder, but of both a part belongs to each collection: its
subscriptions, how often they were asked for, and what was delivered of its changes. A watcher
steps in the part of its collection as if there were nothing else, and no step of another
watcher touches that part. -/

namespace SharedEditing

/-! ## Places among those that are kept -/

section Kept

variable {α : Type} {keep : α → Bool} {change : α → α} {list : List α} {place : Nat} {item : α}

/-- What is kept is found behind as many as are kept before it. -/
theorem getElem?_filter_countP (found : list[place]? = some item) (kept : keep item = true) :
    (list.filter keep)[(list.take place).countP keep]? = some item := by
  induction list generalizing place with
  | nil => cases found
  | cons first rest induction =>
      cases place with
      | zero =>
          cases found
          rw [List.filter_cons_of_pos kept]
          rfl
      | succ place =>
          have later := induction (show rest[place]? = some item from found)
          cases own : keep first <;> simp [own, later]

theorem filter_modify_of_kept (same : ∀ item, keep (change item) = keep item)
    (found : list[place]? = some item) (kept : keep item = true) :
    (list.modify place change).filter keep =
      (list.filter keep).modify ((list.take place).countP keep) change := by
  induction list generalizing place with
  | nil => cases found
  | cons first rest induction =>
      cases place with
      | zero =>
          cases found
          simp [same, kept]
      | succ place =>
          have later := induction (show rest[place]? = some item from found)
          cases own : keep first <;> simp [own, later]

theorem filter_modify_of_not_kept (same : ∀ item, keep (change item) = keep item)
    (found : list[place]? = some item) (left : keep item = false) :
    (list.modify place change).filter keep = list.filter keep := by
  induction list generalizing place with
  | nil => cases found
  | cons first rest induction =>
      cases place with
      | zero =>
          cases found
          simp [same, left]
      | succ place =>
          have later := induction (show rest[place]? = some item from found)
          simp [List.filter_cons, later]

end Kept

/-! ## The feed -/

def Subscription.isOf (collection : Collection) (subscription : Subscription) : Bool :=
  subscription.collection == collection

theorem Subscription.isOf_congr {subscription other : Subscription}
    (same : subscription.collection = other.collection) (collection : Collection) :
    subscription.isOf collection = other.isOf collection := by
  rw [isOf, same, isOf]

namespace MemoryFeed

section Definitions

variable (feed : MemoryFeed) (collection : Collection)

def only : MemoryFeed where
  subscriptions := feed.subscriptions.filter (Subscription.isOf collection)
  watchCalls := ({} : Table Collection Nat).set collection (feed.calls collection)
  isUnavailable := feed.isUnavailable

def rank (place : Nat) : Nat :=
  (feed.subscriptions.take place).countP (Subscription.isOf collection)

def Serves (place : Nat) : Prop :=
  ∃ subscription, feed.subscriptions[place]? = some subscription ∧
    subscription.collection = collection ∧
    ∀ change ∈ changesIn subscription.queue, change.collection = collection

end Definitions

variable {feed : MemoryFeed} {collection other : Collection} {place : Nat}

theorem calls_only : (feed.only collection).calls collection = feed.calls collection := by
  rw [calls, only, Table.getD, Table.get?_set, if_pos rfl]
  rfl

theorem openSubscriptions_only :
    (feed.only collection).openSubscriptions collection = feed.openSubscriptions collection := by
  rw [openSubscriptions, openSubscriptions, only, List.filter_filter]
  refine congrArg List.length (List.filter_congr fun subscription _ => ?_)
  rw [reaches, Subscription.isOf]
  cases subscription.collection == collection <;> simp

theorem peek_only (serves : feed.Serves collection place) :
    (feed.only collection).peek (feed.rank collection place) = feed.peek place := by
  rcases serves with ⟨subscription, found, own, _⟩
  have here : (feed.only collection).subscriptions[feed.rank collection place]? =
      some subscription := getElem?_filter_countP found (beq_iff_eq.mpr own)
  rw [peek, peek, here, found]

section Modified

variable {change : Subscription → Subscription}
  (same : ∀ subscription, (change subscription).collection = subscription.collection)

include same

theorem only_modify (serves : feed.Serves collection place) :
    { feed with subscriptions := feed.subscriptions.modify place change }.only collection =
      { feed.only collection with
        subscriptions := (feed.only collection).subscriptions.modify
          (feed.rank collection place) change } := by
  rcases serves with ⟨subscription, found, own, _⟩
  have kept := filter_modify_of_kept
    (fun subscription => Subscription.isOf_congr (same subscription) collection) found
    (beq_iff_eq.mpr own)
  simp only [only, kept]
  rfl

theorem only_modify_of_ne (serves : feed.Serves other place) (different : other ≠ collection) :
    { feed with subscriptions := feed.subscriptions.modify place change }.only collection =
      feed.only collection := by
  rcases serves with ⟨subscription, found, rfl, _⟩
  have left := filter_modify_of_not_kept
    (fun subscription => Subscription.isOf_congr (same subscription) collection) found
    (beq_eq_false_iff_ne.mpr different)
  simp only [only, left]
  rfl

end Modified

theorem take_only (serves : feed.Serves collection place) :
    (feed.take place).only collection = (feed.only collection).take (feed.rank collection place) :=
  only_modify (fun _ => rfl) serves

theorem take_only_of_ne (serves : feed.Serves other place) (different : other ≠ collection) :
    (feed.take place).only collection = feed.only collection :=
  only_modify_of_ne (fun _ => rfl) serves different

theorem release_only (serves : feed.Serves collection place) :
    (feed.release place).only collection =
      (feed.only collection).release (feed.rank collection place) :=
  only_modify (fun _ => rfl) serves

theorem release_only_of_ne (serves : feed.Serves other place) (different : other ≠ collection) :
    (feed.release place).only collection = feed.only collection :=
  only_modify_of_ne (fun _ => rfl) serves different

theorem watchCalls_only (calls : Nat) :
    (feed.only collection).watchCalls.set collection calls =
      ({} : Table Collection Nat).set collection calls := by
  apply Table.eq_of_entries
  change Table.put collection calls [(collection, feed.calls collection)] = [(collection, calls)]
  rw [Table.put, if_pos rfl]

theorem isUnavailable_watch : (feed.watch other).1.isUnavailable = feed.isUnavailable := by
  unfold watch
  split <;> rfl

theorem watch_only :
    ((feed.only collection).watch collection).1 = (feed.watch collection).1.only collection := by
  have asked := feed.calls_watch collection collection
  rw [if_pos rfl] at asked
  have before : (feed.only collection).watchCalls.getD collection 0 = feed.calls collection :=
    calls_only
  have front : (feed.watch collection).1.only collection =
      ⟨(feed.watch collection).1.subscriptions.filter (Subscription.isOf collection),
        ({} : Table Collection Nat).set collection (feed.calls collection + 1),
        feed.isUnavailable⟩ := by
    rw [only, asked, isUnavailable_watch]
  rw [front, feed.subscriptions_watch collection]
  simp only [watch, before, watchCalls_only]
  cases unavailable : feed.isUnavailable <;> simp [only, unavailable, Subscription.isOf]

theorem length_only :
    (feed.only collection).subscriptions.length =
      feed.rank collection feed.subscriptions.length := by
  rw [rank, List.take_length, List.countP_eq_length_filter, only]

theorem watch_only_of_ne (different : other ≠ collection) :
    (feed.watch other).1.only collection = feed.only collection := by
  have asked := feed.calls_watch other collection
  rw [if_neg different, Nat.add_zero] at asked
  have foreign : (if feed.isUnavailable then [] else [{ collection := other }]).filter
      (Subscription.isOf collection) = [] := by
    split
    · rfl
    · simp [Subscription.isOf, different]
  rw [only, asked, isUnavailable_watch, subscriptions_watch, List.filter_append, foreign,
    List.append_nil, only]

/-! ## Places -/

def Grows (feed next : MemoryFeed) : Prop :=
  feed.subscriptions.map Subscription.collection <+: next.subscriptions.map Subscription.collection

theorem Grows.rank {next : MemoryFeed} (grows : feed.Grows next)
    (inside : place ≤ feed.subscriptions.length) :
    next.rank collection place = feed.rank collection place := by
  have counted (feed : MemoryFeed) : feed.rank collection place =
      ((feed.subscriptions.map Subscription.collection).take place).countP (· == collection) := by
    rw [← List.map_take, List.countP_map]
    rfl
  rcases grows with ⟨added, same⟩
  rw [counted, counted, ← same, List.take_append_of_le_length]
  rwa [List.length_map]

theorem grows_modify {change : Subscription → Subscription}
    (same : ∀ subscription, (change subscription).collection = subscription.collection) :
    feed.Grows { feed with subscriptions := feed.subscriptions.modify place change } := by
  refine ⟨[], (List.append_nil _).trans (List.ext_getElem? fun other => ?_)⟩
  simp only [List.getElem?_map, List.getElem?_modify]
  cases feed.subscriptions[other]? with
  | none => rfl
  | some subscription =>
      simp only [Option.map_some]
      split
      · exact congrArg some (same subscription).symm
      · rfl

theorem grows_watch : feed.Grows (feed.watch other).1 := by
  rw [Grows, subscriptions_watch, List.map_append]
  exact List.prefix_append _ _

theorem grows_apply (world : FeedWorld) (event : FeedEvent) :
    world.feed.Grows (world.apply event).feed := by
  refine ⟨[], (List.append_nil _).trans ?_⟩
  rw [world.subscriptions_apply, List.map_map]
  exact List.map_congr_left fun subscription _ => (subscription.collection_hear event).symm

namespace Serves

variable (serves : feed.Serves collection place)

include serves

theorem inside : place < feed.subscriptions.length := by
  rcases serves with ⟨_, found, _⟩
  exact (List.getElem?_eq_some_iff.mp found).1

theorem watch : (feed.watch other).1.Serves collection place := by
  have inside := serves.inside
  rcases serves with ⟨subscription, found, sent⟩
  refine ⟨subscription, ?_, sent⟩
  rw [subscriptions_watch, List.getElem?_append_left inside, found]

theorem take (taken : Nat) : (feed.take taken).Serves collection place := by
  rcases serves with ⟨subscription, found, own, sent⟩
  rw [Serves, getElem?_take, found, Option.map_some]
  refine ⟨_, rfl, ?_⟩
  split
  · refine ⟨own, fun change waits => sent change ?_⟩
    exact List.Sublist.subset ((List.tail_sublist _).filterMap _) waits
  · exact ⟨own, sent⟩

theorem release (released : Nat) : (feed.release released).Serves collection place := by
  rcases serves with ⟨subscription, found, own, sent⟩
  rw [Serves, getElem?_release, found, Option.map_some]
  refine ⟨_, rfl, ?_⟩
  split
  · exact ⟨own, fun change waits => nomatch waits⟩
  · exact ⟨own, sent⟩

theorem change_of_peek {change : Change} (front : feed.peek place = .item (.ok change)) :
    change.collection = collection := by
  rcases serves with ⟨subscription, found, _, sent⟩
  rcases queue_of_peek front with ⟨same, rest, there, queue⟩
  rw [found, Option.some.injEq] at there
  refine sent change ?_
  rw [there, queue]
  exact .head _

end Serves

theorem Serves.apply {world : FeedWorld} (serves : world.feed.Serves collection place)
    (event : FeedEvent) : (world.apply event).feed.Serves collection place := by
  rcases serves with ⟨subscription, found, own, sent⟩
  refine ⟨subscription.hear event, ?_, (subscription.collection_hear event).trans own, ?_⟩
  · rw [world.subscriptions_apply, List.getElem?_map, found]
    rfl
  · intro change waits
    rw [subscription.changesIn_hear, List.mem_append] at waits
    rcases waits with before | gained
    · exact sent change before
    · rcases subscription.collection_of_gains event (Option.mem_toList.mp gained) with ⟨_, same⟩
      exact same.trans own

theorem serves_watch (answer : (feed.watch collection).2.toOption = some place) :
    (feed.watch collection).1.Serves collection place := by
  rcases answer_eq_some_iff.mp answer with ⟨available, rfl⟩
  refine ⟨{ collection }, ?_, rfl, fun change waits => nomatch waits⟩
  rw [subscriptions_watch, available]
  simp

theorem answer_only :
    ((feed.only collection).watch collection).2.toOption =
      (feed.watch collection).2.toOption.map
        ((feed.watch collection).1.rank collection) := by
  have same : (feed.only collection).isUnavailable = feed.isUnavailable := rfl
  cases answer : (feed.watch collection).2.toOption with
  | none =>
      rw [Option.map_none, Option.eq_none_iff_forall_ne_some]
      intro place found
      have available := same ▸ (answer_eq_some_iff.mp found).1
      rw [answer_eq_some_iff.mpr ⟨available, rfl⟩] at answer
      cases answer
  | some place =>
      rcases answer_eq_some_iff.mp answer with ⟨available, rfl⟩
      rw [Option.map_some, answer_eq_some_iff, length_only]
      exact ⟨available, grows_watch.rank (Nat.le_refl _)⟩

end MemoryFeed

/-! ## The recorder -/

namespace FanOut

def looksUp (change : Change) : Bool :=
  match Event.ofChange change with
  | .ok event => (lookedUp? event).isSome
  | .error _ => false

variable {change : Change}

theorem collection_of_looksUp (looks : looksUp change = true) : change.collection = .comment := by
  unfold looksUp at looks
  cases made : Event.ofChange change with
  | error defect => simp [made] at looks
  | ok event =>
      have own : event.collection = change.collection := by
        unfold Event.ofChange at made
        split at made
        · cases made
        · cases made
          rfl
      rw [← own]
      simp only [made, lookedUp?] at looks
      cases collection : event.collection with
      | comment => rfl
      | _ => simp [collection] at looks

theorem collection?_of_deliveries {lookup : ThreadLookup} {delivery : Delivery}
    (delivered : delivery ∈ deliveries lookup change) :
    (ServerMessage.change delivery.notice).collection? = some change.collection := by
  cases sent : routed lookup change with
  | error reason =>
      rw [deliveries_of_dropped sent] at delivered
      cases delivered
  | ok addressed =>
      rw [deliveries_of_routed sent] at delivered
      split at delivered
      · cases delivered
      · rw [List.mem_singleton.mp delivered, ← collection_of_routed sent]
        exact ServerMessage.collection?_notice addressed.event

theorem threads_emit (addressed : Addressed) (recorder : Recorder) :
    ((emit Recorder.services addressed).run recorder).2.threads = recorder.threads := by
  unfold emit
  cases addressed.audience.isEmpty <;> rfl

theorem threads_recorder (recorder : Recorder) (change : Change) :
    (recorder.handle change).2.threads =
      if looksUp change then recorder.threads.counted else recorder.threads := by
  unfold Recorder.handle handle looksUp
  cases Event.ofChange change with
  | error defect => rfl
  | ok event =>
      let touched (_ : String) : Recorder :=
        { recorder with threads := recorder.threads.counted }
      let after := (lookedUp? event).elim recorder touched
      have counted : after.threads =
          if (lookedUp? event).isSome then recorder.threads.counted else recorder.threads := by
        simp only [after]
        cases lookedUp? event <;> rfl
      simp only [StateT.run_bind, address_run Recorder.services recorder.threads.find touched
        recorder (fun _ => rfl) event]
      cases route recorder.threads.find event with
      | error reason => exact counted
      | ok addressed => exact (threads_emit addressed after).trans counted

end FanOut

namespace Recorder

/-- What a recorder has of the changes of one collection. Only for comments are threads looked
up. -/
def only (recorder : Recorder) (collection : Collection) : Recorder where
  threads :=
    { recorder.threads with
      lookups := if collection = .comment then recorder.threads.lookups else 0 }
  deliveries := recorder.deliveries.filter fun delivery =>
    (ServerMessage.change delivery.notice).collection? == some collection

variable {recorder : Recorder} {collection : Collection} {change : Change}

theorem find_only (recorder : Recorder) (collection : Collection) :
    (recorder.only collection).threads.find = recorder.threads.find := rfl

theorem handle_eq (recorder : Recorder) (change : Change) :
    (recorder.handle change).2 =
      ⟨if FanOut.looksUp change then recorder.threads.counted else recorder.threads,
        recorder.deliveries ++ FanOut.deliveries recorder.threads.find change⟩ := by
  rw [← FanOut.threads_recorder, ← FanOut.deliveries_recorder]

theorem handle_only (own : change.collection = collection) :
    (recorder.handle change).2.only collection = ((recorder.only collection).handle change).2 := by
  have kept : (FanOut.deliveries recorder.threads.find change).filter
      (fun delivery => (ServerMessage.change delivery.notice).collection? == some collection) =
        FanOut.deliveries recorder.threads.find change := by
    refine List.filter_eq_self.mpr fun delivery delivered => ?_
    rw [FanOut.collection?_of_deliveries delivered, own]
    exact beq_self_eq_true _
  rw [handle_eq, handle_eq, find_only]
  simp only [only, List.filter_append, kept]
  cases looks : FanOut.looksUp change with
  | false => rfl
  | true =>
      rw [← own, FanOut.collection_of_looksUp looks]
      rfl

theorem handle_only_of_ne (different : change.collection ≠ collection) :
    (recorder.handle change).2.only collection = recorder.only collection := by
  have none : (FanOut.deliveries recorder.threads.find change).filter
      (fun delivery => (ServerMessage.change delivery.notice).collection? == some collection) =
        [] := by
    refine List.filter_eq_nil_iff.mpr fun delivery delivered => ?_
    rw [FanOut.collection?_of_deliveries delivered]
    simpa using different
  rw [handle_eq]
  simp only [only, List.filter_append, none, List.append_nil]
  cases looks : FanOut.looksUp change with
  | false => rfl
  | true =>
      have unasked : collection ≠ .comment := FanOut.collection_of_looksUp looks ▸ different.symm
      simp only [unasked, if_false]
      rfl

end Recorder

/-! ## What happens around watchers -/

def FeedEvent.concerns (collection : Collection) : FeedEvent → Bool
  | publish change => change.collection == collection
  | fail other _ => other == collection
  | endStreams other => other == collection
  | _ => true

namespace FeedWorld

def only (world : FeedWorld) (collection : Collection) : FeedWorld :=
  { world with feed := world.feed.only collection, recorder := world.recorder.only collection }

variable {collection : Collection} {event : FeedEvent}

theorem hear_of_unconcerned {subscription : Subscription}
    (own : subscription.isOf collection = true) (unconcerned : event.concerns collection = false) :
    subscription.hear event = subscription := by
  have own : subscription.collection = collection := beq_iff_eq.mp own
  cases event with
  | publish change =>
      have other : subscription.collection ≠ change.collection :=
        own ▸ (beq_eq_false_iff_ne.mp unconcerned).symm
      simp [Subscription.hear, MemoryFeed.reaches, other]
  | fail other reason =>
      have other : subscription.collection ≠ other :=
        own ▸ (beq_eq_false_iff_ne.mp unconcerned).symm
      simp [Subscription.hear, MemoryFeed.reaches, other]
  | endStreams other =>
      have other : subscription.collection ≠ other :=
        own ▸ (beq_eq_false_iff_ne.mp unconcerned).symm
      simp [Subscription.hear, other]
  | _ => cases unconcerned

theorem subscriptions_apply_only (world : FeedWorld) (collection : Collection)
    (event : FeedEvent) :
    ((world.apply event).only collection).feed.subscriptions =
      (world.only collection).feed.subscriptions.map fun subscription =>
        subscription.hear event := by
  have same : (fun subscription => Subscription.isOf collection (subscription.hear event)) =
      Subscription.isOf collection :=
    funext fun subscription => Subscription.isOf_congr (subscription.collection_hear event) _
  change (world.apply event).feed.subscriptions.filter _ =
    (world.feed.subscriptions.filter _).map _
  rw [world.subscriptions_apply, List.filter_map]
  exact congrArg (fun keep => (world.feed.subscriptions.filter keep).map _) same

/-- An event that concerns the collection happens to its part, any other does not. -/
theorem only_apply (world : FeedWorld) (event : FeedEvent) :
    (world.apply event).only collection =
      if event.concerns collection then (world.only collection).apply event
      else world.only collection := by
  have heard := world.subscriptions_apply_only collection event
  cases concerned : event.concerns collection with
  | true =>
      rw [if_pos rfl]
      rw [← (world.only collection).subscriptions_apply] at heard
      have rest : (world.apply event).only collection =
          { (world.only collection).apply event with
            feed :=
              { ((world.only collection).apply event).feed with
                subscriptions := ((world.apply event).only collection).feed.subscriptions } } := by
        cases event <;> rfl
      rw [rest, heard]
  | false =>
      rw [if_neg Bool.false_ne_true]
      have same : (world.only collection).feed.subscriptions.map
          (fun subscription => subscription.hear event) =
            (world.only collection).feed.subscriptions :=
        (List.map_congr_left fun subscription member =>
          hear_of_unconcerned (List.mem_filter.mp member).2 concerned).trans (List.map_id' _)
      rw [same] at heard
      have rest : (world.apply event).only collection =
          { world.only collection with
            feed :=
              { (world.only collection).feed with
                subscriptions := ((world.apply event).only collection).feed.subscriptions } } := by
        cases event with
        | publish | fail | endStreams => rfl
        | _ => cases concerned
      rw [rest, heard]

end FeedWorld

/-! ## The watcher -/

def WatcherPhase.within (feed : MemoryFeed) (collection : Collection) :
    WatcherPhase → WatcherPhase
  | asking answer => asking (answer.map (feed.rank collection))
  | reading place => reading (feed.rank collection place)
  | phase => phase

namespace Watcher

def within (watcher : Watcher) (feed : MemoryFeed) : Watcher :=
  { watcher with phase := watcher.phase.within feed watcher.collection }

def alone (pair : Watcher × FeedWorld) : Watcher × FeedWorld :=
  (pair.1.within pair.2.feed, pair.2.only pair.1.collection)

def Served (watcher : Watcher) (feed : MemoryFeed) : Prop :=
  ∀ place, watcher.phase.subscription? = some place → feed.Serves watcher.collection place

variable {watcher after : Watcher} {feed : MemoryFeed} {world next : FeedWorld} {place : Nat}
  {collection : Collection} {change : Option Change}

theorem within_of_none (has : watcher.phase.subscription? = none) (feed : MemoryFeed) :
    watcher.within feed = watcher := by
  rcases watcher with ⟨collection, policy, failures, seen, phase⟩
  cases phase with
  | asking answer =>
      obtain rfl : answer = none := has
      rfl
  | reading place => cases has
  | _ => rfl

theorem phase_within (reading : watcher.phase = .reading place) (feed : MemoryFeed) :
    (watcher.within feed).phase = .reading (feed.rank watcher.collection place) := by
  rw [within, reading, WatcherPhase.within]

theorem within_of_grows {next : MemoryFeed} (served : watcher.Served feed)
    (grows : feed.Grows next) : watcher.within next = watcher.within feed := by
  have same {place : Nat} (has : watcher.phase.subscription? = some place) :
      next.rank watcher.collection place = feed.rank watcher.collection place :=
    grows.rank (served place has).inside.le
  unfold within WatcherPhase.within
  cases phase : watcher.phase with
  | asking answer =>
      cases answer with
      | none => rfl
      | some place => simp only [Option.map_some, same (by rw [phase]; rfl)]
  | reading place => simp only [same (subscription_of_reading phase)]
  | _ => rfl

theorem failed_within (watcher : Watcher) (feed : MemoryFeed) (now : Nat) :
    (watcher.within feed).failed now = watcher.failed now := rfl

theorem alone_failed (watcher : Watcher) (world : FeedWorld) (now : Nat) :
    alone (watcher.failed now, world) = (watcher.failed now, world.only watcher.collection) := by
  rw [alone, within_of_none (watcher.subscription_failed now), collection_failed]

theorem openFeed_alone (watcher : Watcher) (world : FeedWorld) :
    watcher.openFeed (world.only watcher.collection) = alone (watcher.openFeed world) := by
  have asked : ((world.only watcher.collection).feed.watch watcher.collection).1 =
      (world.feed.watch watcher.collection).1.only watcher.collection := MemoryFeed.watch_only
  have answer : ((world.only watcher.collection).feed.watch watcher.collection).2.toOption =
      (world.feed.watch watcher.collection).2.toOption.map
        ((world.feed.watch watcher.collection).1.rank watcher.collection) := MemoryFeed.answer_only
  have same : (world.only watcher.collection).switch = world.switch := rfl
  unfold openFeed
  rw [same]
  cases world.switch.isOn with
  | true => rfl
  | false =>
      simp only [Bool.false_eq_true, if_false, asked, answer]
      rfl

theorem answered_alone (watcher : Watcher) (world : FeedWorld) (answer : Option Nat) :
    ((watcher.within world.feed).answered world.clock
        (answer.map (world.feed.rank watcher.collection)), world.only watcher.collection) =
      alone (watcher.answered world.clock answer, world) := by
  cases answer with
  | some place => rfl
  | none => exact (watcher.alone_failed world world.clock).symm

theorem heedReading_alone (serves : world.feed.Serves watcher.collection place) :
    (watcher.within world.feed).heedReading (world.only watcher.collection)
        (world.feed.rank watcher.collection place) =
      (watcher.heedReading world place).map alone := by
  have released := MemoryFeed.release_only serves
  have closed (seen : Nat) :
      { watcher.within world.feed with seen }.closeFeed (world.only watcher.collection)
          (world.feed.rank watcher.collection place) =
        alone ({ watcher with seen }.closeFeed world place) := by
    rw [closeFeed, closeFeed, alone, FeedWorld.only, FeedWorld.only, ← released]
    rfl
  have news : (world.only watcher.collection).switch.news (watcher.within world.feed).seen =
      world.switch.news watcher.seen := rfl
  have on : (world.only watcher.collection).switch.isOn = world.switch.isOn := rfl
  unfold heedReading
  rw [news, on]
  cases world.switch.news watcher.seen with
  | none => rfl
  | abandoned => exact congrArg some (closed watcher.seen)
  | set =>
      cases world.switch.isOn with
      | true => exact congrArg some (closed world.switch.settings)
      | false => rfl

theorem receive_alone (served : watcher.Served world.feed)
    (reading : watcher.phase = .reading place) :
    (watcher.within world.feed).receive (world.only watcher.collection)
        (world.feed.rank watcher.collection place) =
      (watcher.receive world place).map alone := by
  have serves := served place (subscription_of_reading reading)
  have front : (world.only watcher.collection).feed.peek
      (world.feed.rank watcher.collection place) = world.feed.peek place :=
    MemoryFeed.peek_only serves
  have kept : watcher.within (world.feed.take place) = watcher.within world.feed :=
    within_of_grows served (MemoryFeed.grows_modify fun _ => rfl)
  unfold receive
  rw [front]
  cases peeked : world.feed.peek place with
  | nothing => rfl
  | ended =>
      simp only [Option.map_some, alone_failed, failed_within, FeedWorld.only,
        MemoryFeed.release_only serves]
  | item item =>
      cases item with
      | error error =>
          simp only [Option.map_some, alone, kept, FeedWorld.only, MemoryFeed.take_only serves]
      | ok change =>
          have cleared : { watcher with failures := 0 }.within (world.feed.take place) =
              { watcher.within world.feed with failures := 0 } :=
            congrArg (fun watcher : Watcher => { watcher with failures := 0 }) kept
          simp only [Option.map_some, alone, cleared, FeedWorld.only, MemoryFeed.take_only serves,
            Recorder.handle_only (serves.change_of_peek peeked)]

theorem heedResting_alone (watcher : Watcher) (world : FeedWorld) :
    watcher.heedResting (world.only watcher.collection) =
      (watcher.heedResting world).map alone := by
  have news : (world.only watcher.collection).switch.news watcher.seen =
      world.switch.news watcher.seen := rfl
  have on : (world.only watcher.collection).switch.isOn = world.switch.isOn := rfl
  unfold heedResting
  rw [news, on]
  cases world.switch.news watcher.seen with
  | set => cases world.switch.isOn <;> rfl
  | _ => rfl

theorem wake_alone (watcher : Watcher) (world : FeedWorld) (wakeAt : Nat) :
    watcher.wake (world.only watcher.collection) wakeAt =
      (watcher.wake world wakeAt).map alone := by
  have clock : (world.only watcher.collection).clock = world.clock := rfl
  unfold wake
  rw [clock]
  split <;> rfl

theorem either_map (preference : Preference) (switch other : Option (Watcher × FeedWorld))
    (through : Watcher × FeedWorld → Watcher × FeedWorld) :
    either preference (switch.map through) (other.map through) =
      (either preference switch other).map through := by
  cases preference <;> cases switch <;> cases other <;> rfl

theorem step_alone (served : watcher.Served world.feed) (preference : Preference) :
    (watcher.within world.feed).step preference (world.only watcher.collection) =
      (watcher.step preference world).map alone := by
  cases phase : watcher.phase with
  | opening =>
      have same : watcher.within world.feed = watcher := within_of_none (by rw [phase]; rfl) _
      rw [same, step, step, phase]
      exact congrArg some (watcher.openFeed_alone world)
  | asking answer =>
      have own : (watcher.within world.feed).phase =
          .asking (answer.map (world.feed.rank watcher.collection)) := by
        rw [within, phase, WatcherPhase.within]
      rw [step, step, own, phase]
      exact congrArg some (watcher.answered_alone world answer)
  | reading place =>
      have serves := served place (subscription_of_reading phase)
      rw [step, step, phase_within phase, phase]
      simp only [heedReading_alone serves, receive_alone served phase, either_map]
  | resting wakeAt =>
      have same : watcher.within world.feed = watcher := within_of_none (by rw [phase]; rfl) _
      rw [same, step, step, phase]
      simp only [heedResting_alone, wake_alone, either_map]
  | finished exit =>
      have same : watcher.within world.feed = watcher := within_of_none (by rw [phase]; rfl) _
      rw [same, step, step, phase]
      rfl

theorem hands?_alone (served : watcher.Served world.feed) (preference : Preference) :
    (watcher.within world.feed).hands? preference (world.only watcher.collection) =
      watcher.hands? preference world := by
  cases phase : watcher.phase with
  | asking answer =>
      rw [hands?, hands?, within, phase, WatcherPhase.within]
  | reading place =>
      have serves := served place (subscription_of_reading phase)
      have front : (world.only watcher.collection).feed.peek
          (world.feed.rank watcher.collection place) = world.feed.peek place :=
        MemoryFeed.peek_only serves
      rw [hands?, hands?, phase_within phase, phase]
      simp only [heedReading_alone serves, Option.isSome_map, frontChange?, front]
  | _ =>
      have same : watcher.within world.feed = watcher := within_of_none (by rw [phase]; rfl) _
      rw [same, hands?, hands?, phase]

/-! ## What a move leaves as it is -/

theorem Move.grows (move : Move watcher world change after next) : world.feed.Grows next.feed := by
  cases move with
  | asked => exact MemoryFeed.grows_watch
  | handed | skipped | ended | closed => exact MemoryFeed.grows_modify fun _ => rfl
  | _ => exact List.prefix_rfl

theorem Move.serves (move : Move watcher world change after next)
    (serves : world.feed.Serves collection place) : next.feed.Serves collection place := by
  cases move with
  | asked => exact serves.watch
  | handed | skipped => exact serves.take _
  | ended | closed => exact serves.release _
  | _ => exact serves

theorem Move.served (move : Move watcher world change after next)
    (served : watcher.Served world.feed) : after.Served next.feed := by
  intro own has
  rw [move.collection]
  by_cases earlier : watcher.phase.subscription? = some own
  · exact move.serves (served own earlier)
  · cases move with
    | asked opening off => exact MemoryFeed.serves_watch has
    | opened asking => exact absurd has (by rwa [asking] at earlier)
    | unopened | ended => simp [subscription_failed] at has
    | handed | skipped | reassured => exact absurd has earlier
    | _ => cases has

theorem Move.only_of_ne (move : Move watcher world change after next)
    (served : watcher.Served world.feed) (different : watcher.collection ≠ collection) :
    next.only collection = world.only collection := by
  have fed {feed : MemoryFeed} (same : feed.only collection = world.feed.only collection) :
      { world with feed }.only collection = world.only collection :=
    congrArg (fun feed => { world.only collection with feed }) same
  cases move with
  | asked => exact fed (MemoryFeed.watch_only_of_ne different)
  | skipped reading =>
      have serves := served _ (subscription_of_reading reading)
      exact fed (MemoryFeed.take_only_of_ne serves different)
  | ended reading | closed _ reading =>
      have serves := served _ (subscription_of_reading reading)
      exact fed (MemoryFeed.release_only_of_ne serves different)
  | handed reading front =>
      have serves := served _ (subscription_of_reading reading)
      have own := serves.change_of_peek front
      exact congrArg₂ (fun feed recorder => { world.only collection with feed, recorder })
        (MemoryFeed.take_only_of_ne serves different) (Recorder.handle_only_of_ne (own ▸ different))
  | _ => rfl

end Watcher

end SharedEditing
