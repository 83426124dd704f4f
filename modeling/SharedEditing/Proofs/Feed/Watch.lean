import Mathlib.Data.List.Induction
import SharedEditing.Proofs.Feed.Moves

/-! # The run of a watcher

A watcher takes steps while the feed, the threads, the clock and the switch change around
it and others use the same feed. What is put into the subscription that it has, and
what it hands to fan-out, is written down as it happens. Nothing is lost on the way: what
was put there was handed on already, or still waits there. -/

namespace SharedEditing

/-! ## Subscriptions -/

def changesIn (queue : List FeedItem) : List Change := queue.filterMap Except.toOption

def Subscription.hear (subscription : Subscription) : FeedEvent → Subscription
  | .publish change =>
      if MemoryFeed.reaches change.collection subscription then
        { subscription with queue := subscription.queue ++ [.ok change] }
      else subscription
  | .fail collection reason =>
      if MemoryFeed.reaches collection subscription then
        { subscription with
          queue := subscription.queue ++ [.error (.decode collection.name reason)] }
      else subscription
  | .endStreams collection =>
      if subscription.collection = collection then { subscription with isFed := false }
      else subscription
  | _ => subscription

def Subscription.gains? (subscription : Subscription) : FeedEvent → Option Change
  | .publish change =>
      if MemoryFeed.reaches change.collection subscription then some change else none
  | _ => none

namespace Subscription

variable (subscription : Subscription) (event : FeedEvent)

theorem collection_hear : (subscription.hear event).collection = subscription.collection := by
  cases event <;> simp only [hear] <;> split <;> rfl

theorem isHeld_hear : (subscription.hear event).isHeld = subscription.isHeld := by
  cases event <;> simp only [hear] <;> split <;> rfl

theorem changesIn_hear : changesIn (subscription.hear event).queue =
    changesIn subscription.queue ++ (subscription.gains? event).toList := by
  cases event with
  | publish change =>
      simp only [hear, gains?]
      split <;> simp [changesIn, Except.toOption]
  | fail collection reason =>
      simp only [hear, gains?]
      split <;> simp [changesIn, Except.toOption]
  | endStreams collection =>
      simp only [hear, gains?]
      split <;> simp
  | _ => simp [hear, gains?]

theorem collection_of_gains {change : Change} (gained : subscription.gains? event = some change) :
    event = .publish change ∧ change.collection = subscription.collection := by
  cases event with
  | publish published =>
      simp only [gains?, Option.ite_none_right_eq_some, Option.some.injEq] at gained
      rcases gained with ⟨reached, rfl⟩
      simp only [MemoryFeed.reaches, Bool.and_eq_true, beq_iff_eq] at reached
      exact ⟨rfl, reached.1.1.symm⟩
  | _ => cases gained

end Subscription

inductive Elsewhere where
  | opens (collection : Collection)
  | takes (place : Nat)
  | releases (place : Nat)
  | handles (change : Change)

namespace FeedWorld

def elsewhere (world : FeedWorld) : Elsewhere → FeedWorld
  | .opens collection => { world with feed := (world.feed.watch collection).1 }
  | .takes place => { world with feed := world.feed.take place }
  | .releases place => { world with feed := world.feed.release place }
  | .handles change => { world with recorder := (world.recorder.handle change).2 }

theorem subscriptions_apply (world : FeedWorld) (event : FeedEvent) :
    (world.apply event).feed.subscriptions =
      world.feed.subscriptions.map fun subscription => subscription.hear event := by
  cases event with
  | publish change => rfl
  | fail collection reason => rfl
  | endStreams collection => rfl
  | _ => exact (List.map_id' _).symm

end FeedWorld

namespace MemoryFeed

variable (feed : MemoryFeed) (place other : Nat)

theorem subscriptions_watch (collection : Collection) :
    (feed.watch collection).1.subscriptions =
      feed.subscriptions ++ if feed.isUnavailable then [] else [{ collection := collection }] := by
  unfold watch
  split <;> simp

theorem getElem?_take : (feed.take place).subscriptions[other]? =
    (feed.subscriptions[other]?).map fun subscription =>
      if place = other then { subscription with queue := subscription.queue.tail }
      else subscription := by
  simp only [take, List.getElem?_modify]
  rfl

theorem getElem?_release : (feed.release place).subscriptions[other]? =
    (feed.subscriptions[other]?).map fun subscription =>
      if place = other then { subscription with isHeld := false, queue := [] }
      else subscription := by
  simp only [release, List.getElem?_modify]
  rfl

variable {feed place}

theorem answer_eq_some_iff {collection : Collection} :
    (feed.watch collection).2.toOption = some place ↔
      feed.isUnavailable = false ∧ place = feed.subscriptions.length := by
  unfold watch
  cases feed.isUnavailable <;> simp [Except.toOption, eq_comm]

theorem queue_of_peek {item : FeedItem} (front : feed.peek place = .item item) :
    ∃ subscription rest, feed.subscriptions[place]? = some subscription ∧
      subscription.queue = item :: rest := by
  unfold peek at front
  cases found : feed.subscriptions[place]? with
  | none => simp [found] at front
  | some subscription =>
      simp only [found] at front
      cases queue : subscription.queue with
      | nil =>
          simp only [queue] at front
          split at front <;> cases front
      | cons first rest =>
          simp only [queue] at front
          cases front
          exact ⟨subscription, rest, rfl, queue⟩

theorem queue_of_peek_ended (front : feed.peek place = .ended) {subscription : Subscription}
    (found : feed.subscriptions[place]? = some subscription) : subscription.queue = [] := by
  unfold peek at front
  simp only [found] at front
  cases queue : subscription.queue with
  | nil => rfl
  | cons first rest => simp [queue] at front

theorem queue_of_peek_nothing (front : feed.peek place = .nothing) :
    ∃ subscription, feed.subscriptions[place]? = some subscription ∧ subscription.queue = [] := by
  unfold peek at front
  cases found : feed.subscriptions[place]? with
  | none => simp [found] at front
  | some subscription =>
      refine ⟨subscription, rfl, ?_⟩
      cases queue : subscription.queue with
      | nil => rfl
      | cons first rest => simp [found, queue] at front

end MemoryFeed

namespace Watcher

/-! ## What waits for a watcher -/

def subscription? (watcher : Watcher) (feed : MemoryFeed) : Option Subscription :=
  watcher.phase.subscription?.bind fun place => feed.subscriptions[place]?

def waiting (watcher : Watcher) (feed : MemoryFeed) : List Change :=
  match watcher.subscription? feed with
  | some subscription => changesIn subscription.queue
  | none => []

def Attached (watcher : Watcher) (feed : MemoryFeed) : Prop :=
  ∀ place, watcher.phase.subscription? = some place →
    ∃ subscription, feed.subscriptions[place]? = some subscription ∧
      subscription.collection = watcher.collection ∧ subscription.isHeld = true

variable {watcher after : Watcher} {feed : MemoryFeed} {world next : FeedWorld}
  {change : Option Change}

theorem waiting_of_found {place : Nat} {subscription : Subscription}
    (has : watcher.phase.subscription? = some place)
    (found : feed.subscriptions[place]? = some subscription) :
    watcher.waiting feed = changesIn subscription.queue := by
  rw [waiting, subscription?, has, Option.bind_some, found]

theorem waiting_of_none (has : watcher.phase.subscription? = none) :
    watcher.waiting feed = [] := by
  rw [waiting, subscription?, has, Option.bind_none]

theorem waiting_congr {other : Watcher}
    (same : watcher.phase.subscription? = other.phase.subscription?) :
    watcher.waiting feed = other.waiting feed := by
  rw [waiting, waiting, subscription?, subscription?, same]

theorem subscription_of_reading {place : Nat} (reading : watcher.phase = .reading place) :
    watcher.phase.subscription? = some place := by
  rw [reading, WatcherPhase.subscription?]

theorem Move.attached (move : Move watcher world change after next)
    (attached : watcher.Attached world.feed) : after.Attached next.feed := by
  intro place has
  have taken : ∀ {own : Nat}, watcher.phase = .reading own → own = place →
      ∃ subscription, (world.feed.take own).subscriptions[place]? = some subscription ∧
        subscription.collection = watcher.collection ∧ subscription.isHeld = true := by
    rintro own source rfl
    rcases attached own (subscription_of_reading source) with ⟨subscription, found, held⟩
    have after := world.feed.getElem?_take own own
    rw [found, Option.map_some, if_pos rfl] at after
    exact ⟨_, after, held⟩
  cases move with
  | asked opening off =>
      rcases MemoryFeed.answer_eq_some_iff.mp has with
        ⟨available, rfl⟩
      refine ⟨{ collection := watcher.collection }, ?_, rfl, rfl⟩
      simp [MemoryFeed.subscriptions_watch, available]
  | opened asking => exact attached place (by rw [asking]; exact has)
  | handed own front | skipped own front =>
      rw [subscription_of_reading own, Option.some.injEq] at has
      exact taken own has
  | reassured => exact attached place has
  | unopened | ended => simp [subscription_failed] at has
  | _ => cases has

/-- What waits is handed on or waits afterwards, unless the watcher is shut down. -/
theorem Move.waiting (move : Move watcher world change after next)
    (attached : watcher.Attached world.feed) (remains : after.exit? ≠ some .shutdown) :
    watcher.waiting world.feed = change.toList ++ after.waiting next.feed := by
  -- Taking the front item of the queue leaves the rest of it.
  have taken : ∀ {place item}, watcher.phase = .reading place →
      world.feed.peek place = .item item → ∃ rest,
        watcher.waiting world.feed = changesIn (item :: rest) ∧
          watcher.waiting (world.feed.take place) = changesIn rest := by
    intro place item reading front
    have has := subscription_of_reading reading
    rcases MemoryFeed.queue_of_peek front with ⟨subscription, rest, found, queue⟩
    have after := world.feed.getElem?_take place place
    rw [found, Option.map_some, if_pos rfl] at after
    refine ⟨rest, by rw [waiting_of_found has found, queue], ?_⟩
    rw [waiting_of_found has after, queue]
    rfl
  -- Neither before nor after such a move does the watcher have a subscription.
  have neither : watcher.phase.subscription? = none → after.phase.subscription? = none →
      watcher.waiting world.feed = [] ++ after.waiting next.feed := by
    intro before none
    rw [waiting_of_none before, waiting_of_none none]
    rfl
  cases move with
  | asked opening off =>
      rw [waiting_of_none (by rw [opening]; rfl)]
      cases answer : (world.feed.watch watcher.collection).2.toOption with
      | none => rw [waiting_of_none (by rfl)]; rfl
      | some place =>
          rcases MemoryFeed.answer_eq_some_iff.mp answer with ⟨available, rfl⟩
          have found : (world.feed.watch watcher.collection).1.subscriptions[
              world.feed.subscriptions.length]? = some { collection := watcher.collection } := by
            simp [MemoryFeed.subscriptions_watch, available]
          rw [waiting_of_found (by rfl) found]
          rfl
  | opened asking => exact waiting_congr (by rw [asking]; rfl)
  | unopened asking => exact neither (by rw [asking]; rfl) (watcher.subscription_failed _)
  | handed reading front =>
      rcases taken reading front with ⟨rest, before, after⟩
      rw [before]
      exact congrArg (_ :: ·) after.symm
  | skipped reading front =>
      rcases taken reading front with ⟨rest, before, after⟩
      rw [before]
      exact after.symm
  | ended reading front =>
      have has := subscription_of_reading reading
      rcases attached _ has with ⟨subscription, found, _⟩
      rw [waiting_of_found has found, MemoryFeed.queue_of_peek_ended front found,
        waiting_of_none (watcher.subscription_failed _)]
      rfl
  | reassured reading news off => rfl
  | roused resting news off => exact neither (by rw [resting]; rfl) rfl
  | woke resting due => exact neither (by rw [resting]; rfl) rfl
  | _ => exact absurd rfl remains

end Watcher

/-! ## Runs -/

inductive WatchEvent where
  | around (event : FeedEvent)
  | elsewhere (event : Elsewhere)
  | step (preference : Preference)

namespace WatchEvent

def publishes? (collection : Collection) : WatchEvent → Option Change
  | around (.publish change) => if change.collection = collection then some change else none
  | _ => none

/-- The watcher is not told to end, though it may be told that it need not. -/
def Quiet : WatchEvent → Prop
  | around (.turnSwitch isOn) => isOn = false
  | around .abandonSwitch => False
  | _ => True

end WatchEvent

structure Watch where
  watcher : Watcher
  world : FeedWorld := {}
  /-- The changes put into the subscriptions of the watcher while it had them. -/
  put : List Change := []
  /-- The changes that the watcher handed to fan-out. -/
  handed : List Change := []

namespace Watch

def waiting (watch : Watch) : List Change := watch.watcher.waiting watch.world.feed

def gains? (watch : Watch) (event : FeedEvent) : Option Change :=
  (watch.watcher.subscription? watch.world.feed).bind fun subscription =>
    subscription.gains? event

def isOwn (watch : Watch) : Elsewhere → Bool
  | .takes place => watch.watcher.phase.subscription? == some place
  | .releases place => watch.watcher.phase.subscription? == some place
  | _ => false

def step (watch : Watch) (preference : Preference) : Watch :=
  match watch.watcher.step preference watch.world with
  | none => watch
  | some (watcher, world) =>
      { watcher, world, put := watch.put
        handed := watch.handed ++ (watch.watcher.hands? preference watch.world).toList }

def perform (watch : Watch) : WatchEvent → Watch
  | .around event =>
      { watch with
        world := watch.world.apply event, put := watch.put ++ (watch.gains? event).toList }
  | .elsewhere event =>
      if watch.isOwn event then watch else { watch with world := watch.world.elsewhere event }
  | .step preference => watch.step preference

def hands? (watch : Watch) : WatchEvent → Option Change
  | .step preference =>
      (watch.watcher.step preference watch.world).bind fun _ =>
        watch.watcher.hands? preference watch.world
  | _ => none

theorem handed_perform (watch : Watch) (event : WatchEvent) :
    (watch.perform event).handed = watch.handed ++ (watch.hands? event).toList := by
  cases event with
  | around event => simp [perform, hands?]
  | elsewhere event =>
      simp only [perform, hands?]
      split <;> simp
  | step preference =>
      simp only [perform, hands?, step]
      cases watch.watcher.step preference watch.world with
      | none => simp
      | some pair => rfl

def start (collection : Collection) (policy : RestartPolicy) (seen : Nat) (world : FeedWorld) :
    Watch where
  watcher := { collection, policy, seen }
  world

def run (watch : Watch) (events : List WatchEvent) : Watch := events.foldl perform watch

theorem run_concat (watch : Watch) (events : List WatchEvent) (event : WatchEvent) :
    watch.run (events ++ [event]) = (watch.run events).perform event := by
  simp [run, List.foldl_append]

theorem step_cases (watch : Watch) (preference : Preference) :
    (watch.watcher.step preference watch.world = none ∧ watch.step preference = watch) ∨
      ∃ change watcher world, Watcher.Move watch.watcher watch.world change watcher world ∧
        watch.watcher.hands? preference watch.world = change ∧
        watch.step preference = ⟨watcher, world, watch.put, watch.handed ++ change.toList⟩ := by
  unfold step
  cases stepped : watch.watcher.step preference watch.world with
  | none => exact .inl ⟨rfl, rfl⟩
  | some pair =>
      obtain ⟨watcher, world⟩ := pair
      exact .inr ⟨_, watcher, world, Watcher.move_of_step stepped, rfl, rfl⟩

/-! ## Nothing is lost -/

/-- What was put into the watcher's subscriptions was handed on or waits there, unless the
watcher was shut down on the way. -/
structure Tracked (watch : Watch) : Prop where
  attached : watch.watcher.Attached watch.world.feed
  begun : watch.handed <+: watch.put
  kept : watch.watcher.exit? ≠ some .shutdown → watch.put = watch.handed ++ watch.waiting

namespace Tracked

variable {watch : Watch} (tracked : watch.Tracked)

include tracked

theorem around (event : FeedEvent) : (watch.perform (.around event)).Tracked := by
  have heard (place : Nat) : (watch.world.apply event).feed.subscriptions[place]? =
      (watch.world.feed.subscriptions[place]?).map fun subscription => subscription.hear event := by
    rw [watch.world.subscriptions_apply, List.getElem?_map]
  have waits : (watch.perform (.around event)).waiting =
      watch.waiting ++ (watch.gains? event).toList := by
    unfold waiting gains? perform Watcher.waiting Watcher.subscription?
    cases watch.watcher.phase.subscription? with
    | some place =>
        simp only [Option.bind_some, heard]
        cases watch.world.feed.subscriptions[place]? with
        | none => rfl
        | some subscription => exact subscription.changesIn_hear event
    | none => rfl
  constructor
  case attached =>
    intro place has
    rcases tracked.attached place has with ⟨subscription, found, own, held⟩
    have after := heard place
    rw [found] at after
    exact ⟨subscription.hear event, after, (subscription.collection_hear event).trans own,
      (subscription.isHeld_hear event).trans held⟩
  case begun => exact tracked.begun.trans (List.prefix_append _ _)
  case kept =>
    intro remains
    rw [waits, ← List.append_assoc]
    exact congrArg (· ++ (watch.gains? event).toList) (tracked.kept remains)

theorem elsewhere (event : Elsewhere) : (watch.perform (.elsewhere event)).Tracked := by
  simp only [perform]
  split
  · exact tracked
  · rename_i foreign
    have untouched : ∀ place, watch.watcher.phase.subscription? = some place →
        (watch.world.elsewhere event).feed.subscriptions[place]? =
          watch.world.feed.subscriptions[place]? := by
      intro place has
      rcases tracked.attached place has with ⟨subscription, found, _⟩
      cases event with
      | opens collection =>
          have inside := (List.getElem?_eq_some_iff.mp found).1
          simp only [FeedWorld.elsewhere, MemoryFeed.subscriptions_watch]
          exact List.getElem?_append_left inside
      | takes other =>
          have different : other ≠ place := by
            rintro rfl
            simp [isOwn, has] at foreign
          simp [FeedWorld.elsewhere, MemoryFeed.getElem?_take, different]
      | releases other =>
          have different : other ≠ place := by
            rintro rfl
            simp [isOwn, has] at foreign
          simp [FeedWorld.elsewhere, MemoryFeed.getElem?_release, different]
      | handles change => rfl
    have waits : watch.watcher.waiting (watch.world.elsewhere event).feed = watch.waiting := by
      unfold waiting Watcher.waiting Watcher.subscription?
      cases has : watch.watcher.phase.subscription? with
      | some place => simp only [Option.bind_some, untouched place has]
      | none => rfl
    constructor
    case attached =>
      intro place has
      rcases tracked.attached place has with ⟨subscription, found, attached⟩
      exact ⟨subscription, (untouched place has).trans found, attached⟩
    case begun => exact tracked.begun
    case kept =>
      intro remains
      exact (tracked.kept remains).trans (congrArg (watch.handed ++ ·) waits.symm)

theorem step (preference : Preference) : (watch.step preference).Tracked := by
  rcases watch.step_cases preference with ⟨_, still⟩ | ⟨change, watcher, world, move, _, after⟩
  · rw [still]
    exact tracked
  · rw [after]
    -- A watcher that moves has not ended, so what was put there is all accounted for.
    have before := tracked.kept (by rw [move.unfinished]; simp)
    have kept : watcher.exit? ≠ some .shutdown →
        watch.put = (watch.handed ++ change.toList) ++ watcher.waiting world.feed := by
      intro remains
      rw [List.append_assoc, ← move.waiting tracked.attached remains]
      exact before
    refine ⟨move.attached tracked.attached, ?_, kept⟩
    -- Whoever is shut down hands nothing on with it, and what is queued is lost.
    by_cases dismissed : watcher.exit? = some .shutdown
    · rw [move.nothing_of_shutdown dismissed]
      simpa using tracked.begun
    · exact (kept dismissed).symm ▸ List.prefix_append _ _

theorem published_of_gains {event : FeedEvent} {change : Change}
    (gained : watch.gains? event = some change) :
    event = .publish change ∧ change.collection = watch.watcher.collection := by
  rcases Option.bind_eq_some_iff.mp gained with ⟨subscription, read, gained⟩
  rcases subscription.collection_of_gains event gained with ⟨published, own⟩
  refine ⟨published, own.trans ?_⟩
  rcases Option.bind_eq_some_iff.mp read with ⟨place, has, there⟩
  rcases tracked.attached place has with ⟨attached, found, same, _⟩
  rw [found, Option.some.injEq] at there
  exact there ▸ same

theorem perform (event : WatchEvent) : (watch.perform event).Tracked := by
  cases event with
  | around event => exact tracked.around event
  | elsewhere event => exact tracked.elsewhere event
  | step preference => exact tracked.step preference

omit tracked in
theorem start (collection : Collection) (policy : RestartPolicy) (seen : Nat)
    (world : FeedWorld) : (start collection policy seen world).Tracked where
  attached _ has := by cases has
  begun := List.nil_prefix
  kept _ := rfl

theorem run (events : List WatchEvent) : (watch.run events).Tracked := by
  induction events using List.reverseRecOn with
  | nil => exact tracked
  | append_singleton events event induction =>
      rw [run_concat]
      exact induction.perform event

end Tracked

/-! ## In the order of publication -/

theorem collection_perform (watch : Watch) (event : WatchEvent) :
    (watch.perform event).watcher.collection = watch.watcher.collection := by
  cases event with
  | around event => rfl
  | elsewhere event =>
      simp only [perform]
      split <;> rfl
  | step preference =>
      rcases watch.step_cases preference with ⟨_, still⟩ | ⟨_, _, _, move, _, after⟩
      · exact congrArg (fun watch : Watch => watch.watcher.collection) still
      · simp only [perform, after]
        exact move.collection

theorem collection_run (watch : Watch) (events : List WatchEvent) :
    (watch.run events).watcher.collection = watch.watcher.collection := by
  induction events using List.reverseRecOn with
  | nil => rfl
  | append_singleton events event induction =>
      rw [run_concat, collection_perform]
      exact induction

theorem put_step (watch : Watch) (preference : Preference) :
    (watch.step preference).put = watch.put := by
  rcases watch.step_cases preference with ⟨_, still⟩ | ⟨_, _, _, _, _, after⟩
  · rw [still]
  · rw [after]

/-- What was put where the watcher reads was published, in this order, and is of its own
collection. -/
theorem put_sublist (collection : Collection) (policy : RestartPolicy) (seen : Nat)
    (world : FeedWorld) (events : List WatchEvent) :
    ((start collection policy seen world).run events).put.Sublist
      (events.filterMap (WatchEvent.publishes? collection)) := by
  induction events using List.reverseRecOn with
  | nil => exact .slnil
  | append_singleton events event induction =>
      rw [run_concat, List.filterMap_append]
      have tracked := (Tracked.start collection policy seen world).run events
      have own := (start collection policy seen world).collection_run events
      generalize (start collection policy seen world).run events = watch at induction tracked own ⊢
      cases event with
      | around event =>
          apply induction.append
          cases gained : watch.gains? event with
          | none => exact List.nil_sublist _
          | some change =>
              rcases tracked.published_of_gains gained with ⟨rfl, same⟩
              have published : WatchEvent.publishes? collection (.around (.publish change)) =
                  some change := if_pos (same.trans own)
              simp [published]
      | elsewhere event =>
          have still : (watch.perform (.elsewhere event)).put = watch.put := by
            simp only [perform]
            split <;> rfl
          rw [still]
          exact induction.trans (List.sublist_append_left _ _)
      | step preference =>
          have still : (watch.perform (.step preference)).put = watch.put :=
            watch.put_step preference
          rw [still]
          exact induction.trans (List.sublist_append_left _ _)

/-! ## While the switch stays off -/

structure Undisturbed (watch : Watch) : Prop where
  off : watch.world.switch.isOn = false
  held : watch.world.switch.isHeld = true
  remains : watch.watcher.exit? ≠ some .shutdown

theorem Undisturbed.perform {watch : Watch} (undisturbed : watch.Undisturbed) {event : WatchEvent}
    (quiet : event.Quiet) : (watch.perform event).Undisturbed := by
  rcases undisturbed with ⟨off, held, remains⟩
  cases event with
  | around event =>
      cases event with
      | turnSwitch isOn =>
          obtain rfl : isOn = false := quiet
          have turned : (watch.perform (.around (.turnSwitch false))).world.switch =
              { watch.world.switch with
                isOn := false
                settings := watch.world.switch.settings + 1 } :=
            if_pos held
          exact ⟨by rw [turned], by rw [turned, held], remains⟩
      | abandonSwitch => exact quiet.elim
      | _ => exact ⟨off, held, remains⟩
  | elsewhere event =>
      simp only [Watch.perform]
      split
      · exact ⟨off, held, remains⟩
      · cases event <;> exact ⟨off, held, remains⟩
  | step preference =>
      rcases watch.step_cases preference with ⟨_, still⟩ | ⟨_, _, _, move, _, after⟩
      · simp only [Watch.perform, still]
        exact ⟨off, held, remains⟩
      · simp only [Watch.perform, after]
        exact ⟨move.switch ▸ off, move.switch ▸ held, move.remains off held⟩

theorem undisturbed_run (collection : Collection) (policy : RestartPolicy) (seen : Nat)
    {world : FeedWorld} (off : world.switch.isOn = false) (held : world.switch.isHeld = true)
    {events : List WatchEvent} (quiet : ∀ event ∈ events, event.Quiet) :
    ((start collection policy seen world).run events).Undisturbed := by
  induction events using List.reverseRecOn with
  | nil => exact ⟨off, held, by simp [start, run, Watcher.exit?]⟩
  | append_singleton events event induction =>
      rw [run_concat]
      have before := induction fun earlier member => quiet earlier (List.mem_append_left _ member)
      exact before.perform (quiet event (List.mem_append_right _ (.head [])))

end Watch

end SharedEditing
