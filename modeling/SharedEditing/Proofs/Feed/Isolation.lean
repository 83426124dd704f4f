import SharedEditing.Proofs.Feed.Projection

/-! # Collections do not disturb each other

Of a run of several watchers, one watcher and the part of its collection are a run of that
watcher alone. It is given the watcher's own steps and what happens around it that concerns
its collection. Whatever happens to other collections is no part of it. -/

namespace SharedEditing

def EngineEvent.toward? (place : Nat) (collection : Collection) : EngineEvent → Option EngineEvent
  | around event => if event.concerns collection then some (around event) else none
  | step other preference => if other = place then some (step 0 preference) else none

theorem EngineEvent.toward?_toward? (place : Nat) (collection : Collection) (event : EngineEvent) :
    (event.toward? place collection).bind (toward? 0 collection) =
      event.toward? place collection := by
  cases event with
  | around event =>
      simp only [toward?]
      split
      · rename_i concerned
        simp [toward?, concerned]
      · rfl
  | step other preference =>
      simp only [toward?]
      split <;> rfl

namespace Engine

def alone (engine : Engine) (place : Nat) (collection : Collection) : Engine where
  watchers := (engine.watchers[place]?.map fun watcher => watcher.within engine.world.feed).toList
  world := engine.world.only collection

theorem alone_eq {engine : Engine} {place : Nat} {watcher : Watcher}
    (found : engine.watchers[place]? = some watcher) (collection : Collection) :
    engine.alone place collection =
      ⟨[watcher.within engine.world.feed], engine.world.only collection⟩ := by
  rw [alone, found]
  rfl

/-- The watchers are of distinct collections, the one at the place is of this one, and each is
sent changes of its own. -/
structure Apart (engine : Engine) (place : Nat) (collection : Collection) : Prop where
  distinct : (engine.watchers.map Watcher.collection).Nodup
  own : (engine.watchers.map Watcher.collection)[place]? = some collection
  served : ∀ (other : Nat) (watcher : Watcher), engine.watchers[other]? = some watcher →
    watcher.Served engine.world.feed

theorem apart_start {collections : List Collection} {place : Nat} {collection : Collection}
    (distinct : collections.Nodup) (found : collections[place]? = some collection)
    (policy : RestartPolicy) (world : FeedWorld) :
    (start collections policy world).Apart place collection := by
  have same : (start collections policy world).watchers.map Watcher.collection = collections := by
    simp [start, Function.comp_def]
  refine ⟨same.symm ▸ distinct, same.symm ▸ found, fun other watcher near own has => ?_⟩
  have opening : watcher.phase = .opening := by
    rw [start, List.getElem?_map, Option.map_eq_some_iff] at near
    rcases near with ⟨_, _, rfl⟩
    rfl
  rw [opening] at has
  cases has

namespace Apart

variable {engine : Engine} {place : Nat} {collection : Collection}
  (apart : engine.Apart place collection)

include apart

theorem exists_watcher :
    ∃ watcher, engine.watchers[place]? = some watcher ∧ watcher.collection = collection := by
  have own := apart.own
  rwa [List.getElem?_map, Option.map_eq_some_iff] at own

/-! ## What every event keeps -/

theorem perform (event : EngineEvent) : (engine.perform event).Apart place collection := by
  cases event with
  | around event =>
      exact ⟨apart.distinct, apart.own, fun other watcher near own has =>
        (apart.served other watcher near own has).apply event⟩
  | step other preference =>
      have kept := engine.collections_move other preference
      refine ⟨kept.symm ▸ apart.distinct, kept.symm ▸ apart.own, ?_⟩
      rcases engine.move_cases other preference with same |
        ⟨watcher, change, after, next, found, move, moved⟩
      · simp only [Engine.perform, same]
        exact apart.served
      · simp only [Engine.perform, moved]
        intro near neighbour there
        rcases of_getElem?_set there with ⟨rfl, rfl⟩ | ⟨_, there⟩
        · exact move.served (apart.served _ _ found)
        · exact fun own has => move.serves (apart.served near neighbour there own has)

theorem run (events : List EngineEvent) : (engine.run events).Apart place collection := by
  induction events using List.reverseRecOn with
  | nil => exact apart
  | append_singleton events event induction =>
      rw [run_concat]
      exact induction.perform event

/-! ## A run and its part -/

theorem alone_apply (event : FeedEvent) :
    (engine.apply event).alone place collection =
      if event.concerns collection then (engine.alone place collection).apply event
      else engine.alone place collection := by
  rcases apart.exists_watcher with ⟨watcher, found, _⟩
  have kept : watcher.within (engine.world.apply event).feed = watcher.within engine.world.feed :=
    Watcher.within_of_grows (apart.served place watcher found)
      (MemoryFeed.grows_apply engine.world event)
  have there : (engine.apply event).watchers[place]? = some watcher := found
  have world : (engine.apply event).world = engine.world.apply event := rfl
  rw [alone_eq there, alone_eq found, world, kept, engine.world.only_apply event]
  split <;> rfl

theorem alone_move (preference : Preference) :
    (engine.move place preference).alone place collection =
      (engine.alone place collection).move 0 preference := by
  rcases apart.exists_watcher with ⟨watcher, found, rfl⟩
  have alike := Watcher.step_alone (apart.served place watcher found) preference
  cases stepped : watcher.step preference engine.world with
  | none =>
      rw [stepped, Option.map_none] at alike
      have still : engine.move place preference = engine := by simp only [move, found, stepped]
      rw [still, alone_eq found]
      simp only [move, List.getElem?_cons_zero, alike]
  | some pair =>
      rw [stepped, Option.map_some] at alike
      have there := getElem?_move found stepped
      have same : pair.1.collection = watcher.collection :=
        (Watcher.move_of_step stepped).collection
      have world : (engine.move place preference).world = pair.2 := by
        rw [engine.move_eq found stepped]
      rw [alone_eq there, alone_eq found, world]
      simp only [move, List.getElem?_cons_zero, alike, Watcher.alone, same]
      rfl

theorem alone_move_of_ne {other : Nat} (different : other ≠ place) (preference : Preference) :
    (engine.move other preference).alone place collection = engine.alone place collection := by
  rcases apart.exists_watcher with ⟨watcher, found, own⟩
  rcases engine.move_cases other preference with same |
    ⟨neighbour, change, after, next, near, move, moved⟩
  · rw [same]
  · have foreign : neighbour.collection ≠ collection :=
      own ▸ foreign_of_distinct apart.distinct near found different.symm
    have there : (engine.watchers.set other after)[place]? = some watcher := by
      rw [List.getElem?_set_ne different, found]
    have kept : watcher.within next.feed = watcher.within engine.world.feed :=
      Watcher.within_of_grows (apart.served place watcher found) move.grows
    have part : next.only collection = engine.world.only collection :=
      move.only_of_ne (apart.served other neighbour near) foreign
    have near : (engine.move other preference).watchers[place]? = some watcher := by
      rw [moved, there]
    rw [alone_eq near, alone_eq found, moved, kept, part]

theorem alone_perform (event : EngineEvent) :
    (engine.perform event).alone place collection =
      (event.toward? place collection).elim (engine.alone place collection)
        (engine.alone place collection).perform := by
  cases event with
  | around event =>
      rw [Engine.perform, apart.alone_apply, EngineEvent.toward?]
      split <;> rfl
  | step other preference =>
      rw [Engine.perform, EngineEvent.toward?]
      split
      · rename_i same
        subst same
        exact apart.alone_move preference
      · rename_i different
        exact apart.alone_move_of_ne different preference

theorem alone_run (events : List EngineEvent) :
    (engine.run events).alone place collection =
      (engine.alone place collection).run
        (events.filterMap (EngineEvent.toward? place collection)) := by
  induction events using List.reverseRecOn with
  | nil => rfl
  | append_singleton events event induction =>
      rw [run_concat, (apart.run events).alone_perform, induction, List.filterMap_append,
        run_append]
      cases toward : event.toward? place collection with
      | none => simp [toward, Engine.run]
      | some event => simp [toward, Engine.run]

end Apart

/-! ## What is handed to fan-out -/

def hands? (engine : Engine) (place : Nat) : EngineEvent → Option Change
  | .around _ => none
  | .step other preference =>
      if other = place then
        engine.watchers[place]?.bind fun watcher =>
          (watcher.step preference engine.world).bind fun _ =>
            watcher.hands? preference engine.world
      else none

def handed (engine : Engine) (place : Nat) : List EngineEvent → List Change
  | [] => []
  | event :: rest =>
      (engine.hands? place event).toList ++ (engine.perform event).handed place rest

namespace Apart

variable {engine : Engine} {place : Nat} {collection : Collection}
  (apart : engine.Apart place collection)

include apart

theorem hands?_alone (event : EngineEvent) :
    (event.toward? place collection).bind ((engine.alone place collection).hands? 0) =
      engine.hands? place event := by
  cases event with
  | around event =>
      rw [EngineEvent.toward?, hands?]
      split <;> rfl
  | step other preference =>
      rw [EngineEvent.toward?, hands?]
      split
      · rcases apart.exists_watcher with ⟨watcher, found, rfl⟩
        have served := apart.served place watcher found
        simp only [Option.bind_some, alone_eq found, found, hands?, if_true,
          List.getElem?_cons_zero, Watcher.step_alone served, Watcher.hands?_alone served,
          Option.bind_map]
        rfl
      · rfl

theorem handed_alone (events : List EngineEvent) :
    (engine.alone place collection).handed 0
        (events.filterMap (EngineEvent.toward? place collection)) =
      engine.handed place events := by
  induction events generalizing engine with
  | nil => rfl
  | cons event rest induction =>
      have hands := apart.hands?_alone event
      have performed := apart.alone_perform event
      have later := induction (apart.perform event)
      rw [performed] at later
      rw [handed, ← hands, ← later]
      cases toward : event.toward? place collection with
      | none => simp [toward]
      | some event => simp [toward, handed]

end Apart

/-! ## One subscription at most -/

theorem length_filter_le_one {α : Type} {keep : α → Bool} {list : List α}
    (single : ∀ (first second : Nat) (one other : α), list[first]? = some one →
      list[second]? = some other → keep one = true → keep other = true → first = second) :
    (list.filter keep).length ≤ 1 := by
  induction list with
  | nil => exact Nat.zero_le 1
  | cons item rest induction =>
      have later := induction fun first second one other found there kept keptToo =>
        Nat.succ.inj (single (first + 1) (second + 1) one other found there kept keptToo)
      cases kept : keep item with
      | false => rwa [List.filter_cons_of_neg (by simp [kept])]
      | true =>
          have none : rest.filter keep = [] := by
            refine List.filter_eq_nil_iff.mpr fun other member keptToo => ?_
            rcases List.getElem?_of_mem member with ⟨place, found⟩
            exact absurd (single 0 (place + 1) item other rfl found kept keptToo) nofun
          rw [List.filter_cons_of_pos kept, none]
          rfl

/-- No subscription is open but the one that the watcher has. -/
theorem openSubscriptions_le_one {watcher : Watcher} {feed : MemoryFeed}
    (tends : watcher.Tends feed) : feed.openSubscriptions watcher.collection ≤ 1 := by
  refine length_filter_le_one fun first second one other found there reached reachedToo => ?_
  simp only [MemoryFeed.reaches, Bool.and_eq_true, beq_iff_eq] at reached reachedToo
  have has := tends first ⟨one, found, reached.1.1, reached.2⟩
  rw [tends second ⟨other, there, reachedToo.1.1, reachedToo.2⟩] at has
  exact (Option.some.inj has).symm

/-! ## Among others and alone -/

def isReady (engine : Engine) (place : Nat) (preference : Preference) : Bool :=
  (engine.watchers[place]?.bind fun watcher => watcher.step preference engine.world).isSome

/-- The watcher at a place has a subscription, or is about to be given one: it is not about to
ask, does not rest, and has not ended. -/
def isSubscribed (engine : Engine) (place : Nat) : Bool :=
  engine.watchers[place]?.any fun watcher => watcher.phase.subscription?.isSome

structure Alike (shared lone : Engine) (place : Nat) (collection : Collection) : Prop where
  calls : shared.world.feed.calls collection = lone.world.feed.calls collection
  opened : shared.world.feed.openSubscriptions collection =
    lone.world.feed.openSubscriptions collection
  exit : shared.exitAt place = lone.exitAt 0
  subscribed : shared.isSubscribed place = lone.isSubscribed 0
  ready : ∀ preference, shared.isReady place preference = lone.isReady 0 preference
  /-- So are the failures, the end of a rest, what is queued and what was delivered. -/
  part : shared.alone place collection = lone.alone 0 collection

section Alone

variable {engine : Engine} {place : Nat} {collection : Collection}

theorem exitAt_alone : (engine.alone place collection).exitAt 0 = engine.exitAt place := by
  rw [exitAt, exitAt, alone]
  cases engine.watchers[place]? with
  | none => rfl
  | some watcher =>
      rcases watcher with ⟨_, _, _, _, _ | _ | _ | _ | _⟩ <;> rfl

theorem isSubscribed_alone :
    (engine.alone place collection).isSubscribed 0 = engine.isSubscribed place := by
  rw [isSubscribed, isSubscribed, alone]
  cases engine.watchers[place]? with
  | none => rfl
  | some watcher =>
      rcases watcher with ⟨_, _, _, _, _ | (_ | _) | _ | _ | _⟩ <;> rfl

theorem isReady_alone (apart : engine.Apart place collection) (preference : Preference) :
    (engine.alone place collection).isReady 0 preference = engine.isReady place preference := by
  rcases apart.exists_watcher with ⟨watcher, found, rfl⟩
  have alike := Watcher.step_alone (apart.served place watcher found) preference
  simp only [isReady, alone_eq found, found, List.getElem?_cons_zero, Option.bind_some, alike,
    Option.isSome_map]

end Alone

theorem Apart.alike {shared lone : Engine} {place : Nat} {collection : Collection}
    (apart : shared.Apart place collection) (single : lone.Apart 0 collection)
    (part : shared.alone place collection = lone.alone 0 collection) :
    shared.Alike lone place collection where
  calls := by
    have same := congrArg (fun engine => engine.world.feed.calls collection) part
    exact MemoryFeed.calls_only.symm.trans (same.trans MemoryFeed.calls_only)
  opened := by
    have same := congrArg (fun engine => engine.world.feed.openSubscriptions collection) part
    exact MemoryFeed.openSubscriptions_only.symm.trans
      (same.trans MemoryFeed.openSubscriptions_only)
  exit := by rw [← exitAt_alone, part, exitAt_alone]
  subscribed := by rw [← isSubscribed_alone, part, isSubscribed_alone]
  ready preference := by rw [← isReady_alone apart, part, isReady_alone single]
  part

theorem alone_start {collections : List Collection} {place : Nat} {collection : Collection}
    (found : collections[place]? = some collection) (policy : RestartPolicy) (world : FeedWorld) :
    (start collections policy world).alone place collection =
      (start [collection] policy world).alone 0 collection := by
  simp [alone, start, found]

/-- A watcher among others asks its feed, hands changes on, rests and ends as it would alone.
The events may be any, so this holds after each of them. If nobody else holds a subscription of
its collection, one is open at most, and none unless it is the watcher's. -/
theorem collections_are_isolated {collections : List Collection} (distinct : collections.Nodup)
    {place : Nat} {collection : Collection} (found : collections[place]? = some collection)
    (policy : RestartPolicy) (world : FeedWorld) (events : List EngineEvent) :
    let shared := start collections policy world
    let lone := start [collection] policy world
    let own := events.filterMap (EngineEvent.toward? place collection)
    shared.handed place events = lone.handed 0 own ∧
      (shared.run events).Alike (lone.run own) place collection ∧
      ((∀ other, ¬ world.feed.Holds other collection) →
        (shared.run events).world.feed.openSubscriptions collection ≤ 1 ∧
          ((shared.run events).isSubscribed place = false →
            (shared.run events).world.feed.openSubscriptions collection = 0)) := by
  intro shared lone own
  have apart : shared.Apart place collection := apart_start distinct found policy world
  have single : lone.Apart 0 collection := apart_start (List.nodup_singleton _) rfl policy world
  have begun : shared.alone place collection = lone.alone 0 collection :=
    alone_start found policy world
  -- For the watcher alone every event that is left is its own.
  have kept : own.filterMap (EngineEvent.toward? 0 collection) = own := by
    rw [List.filterMap_filterMap]
    exact congrArg (events.filterMap ·)
      (funext fun event => event.toward?_toward? place collection)
  have alike : (shared.run events).Alike (lone.run own) place collection := by
    refine (apart.run events).alike (single.run own) ?_
    rw [apart.alone_run, single.alone_run, kept, begun]
  refine ⟨?handed, alike, fun unheld => ?_⟩
  case handed => rw [← apart.handed_alone, ← single.handed_alone, kept, begun]
  have fresh : lone.Fresh :=
    fresh_start (List.nodup_singleton _) policy (by simpa using unheld)
  rcases (single.run own).exists_watcher with ⟨watcher, there, rfl⟩
  have tends := (fresh.sound.run own).tends there
  rw [alike.opened, alike.subscribed]
  refine ⟨openSubscriptions_le_one tends, fun idle => ?_⟩
  refine MemoryFeed.openSubscriptions_of_unheld fun other holds => ?_
  simp [isSubscribed, there, tends other holds] at idle

/-- The comments are given up, and the threads go on. -/
theorem collections_are_isolated_of_exhausted :
    let shared := start Collection.all ⟨0, 1000⟩ {}
    let change : Change := ⟨.commentThread, .delete, "1", none⟩
    let events : List EngineEvent :=
      [.step 1 .other, .step 1 .other, .around (.setUnavailable true), .step 0 .other,
        .step 0 .other, .around (.publish change), .step 1 .other]
    let lone := start [.commentThread] ⟨0, 1000⟩ {}
    let own : List EngineEvent :=
      [.step 0 .other, .step 0 .other, .around (.setUnavailable true),
        .around (.publish change), .step 0 .other]
    (shared.run events).exitAt 0 = some .exhausted ∧ shared.handed 1 events = [change] ∧
      lone.handed 0 own = [change] ∧ (shared.run events).Alike (lone.run own) 1 .commentThread ∧
      (shared.run events).world.feed.openSubscriptions .commentThread ≤ 1 := by
  intro shared change events lone own
  rcases collections_are_isolated (show Collection.all.Nodup by decide)
    (show Collection.all[1]? = some .commentThread from rfl) ⟨0, 1000⟩ {} events with
    ⟨handed, alike, single⟩
  have handing : shared.handed 1 events = [change] := rfl
  have unheld : ∀ other, ¬ ({} : MemoryFeed).Holds other .commentThread := by
    simp [MemoryFeed.Holds]
  exact ⟨rfl, handing, handed.symm.trans handing, alike, (single unheld).1⟩

end Engine

end SharedEditing
