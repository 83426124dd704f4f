import SharedEditing.Proofs.Feed.Shutdown

/-! # Watchers side by side

Watchers of distinct collections share a feed and a switch. They take their steps in any
order, and anything may happen around them in between. Once the switch is on none of them
asks for a subscription again, and wherever one waits, it ends next. What has ended holds
no subscription and stays ended. -/

namespace SharedEditing

inductive EngineEvent where
  | around (event : FeedEvent)
  /-- The watcher at this place takes a step. -/
  | step (place : Nat) (preference : Preference)

namespace EngineEvent

def KeepsOn : EngineEvent → Prop
  | around (.turnSwitch isOn) => isOn = true
  | _ => True

def IsStepOf (place : Nat) : EngineEvent → Prop
  | around _ => False
  | step other _ => other = place

end EngineEvent

namespace Engine

def move (engine : Engine) (place : Nat) (preference : Preference) : Engine :=
  match engine.watchers[place]? with
  | none => engine
  | some watcher =>
      match watcher.step preference engine.world with
      | none => engine
      | some (after, world) => { watchers := engine.watchers.set place after, world }

def perform (engine : Engine) : EngineEvent → Engine
  | .around event => engine.apply event
  | .step place preference => engine.move place preference

def run (engine : Engine) (events : List EngineEvent) : Engine := events.foldl perform engine

def exitAt (engine : Engine) (place : Nat) : Option FeedExit :=
  engine.watchers[place]?.bind Watcher.exit?

theorem run_append (engine : Engine) (events later : List EngineEvent) :
    engine.run (events ++ later) = (engine.run events).run later :=
  List.foldl_append

theorem run_concat (engine : Engine) (events : List EngineEvent) (event : EngineEvent) :
    engine.run (events ++ [event]) = (engine.run events).perform event :=
  engine.run_append events [event]

variable {engine : Engine} {place other : Nat} {watcher neighbour : Watcher}

theorem move_cases (engine : Engine) (place : Nat) (preference : Preference) :
    engine.move place preference = engine ∨
      ∃ watcher change after next, engine.watchers[place]? = some watcher ∧
        Watcher.Move watcher engine.world change after next ∧
        engine.move place preference = ⟨engine.watchers.set place after, next⟩ := by
  cases found : engine.watchers[place]? with
  | none => exact .inl (by simp only [move, found])
  | some watcher =>
      cases stepped : watcher.step preference engine.world with
      | none => exact .inl (by simp only [move, found, stepped])
      | some pair =>
          exact .inr ⟨watcher, _, pair.1, pair.2, rfl, Watcher.move_of_step stepped,
            by simp only [move, found, stepped]⟩

theorem of_getElem?_set {watchers : List Watcher} {after : Watcher}
    (found : (watchers.set place after)[other]? = some watcher) :
    other = place ∧ watcher = after ∨ other ≠ place ∧ watchers[other]? = some watcher := by
  rw [List.getElem?_set] at found
  split at found
  · rename_i same
    split at found
    · exact .inl ⟨same.symm, (Option.some.inj found).symm⟩
    · cases found
  · rename_i different
    exact .inr ⟨Ne.symm different, found⟩

theorem move_eq (engine : Engine) {preference : Preference} {after : Watcher}
    {next : FeedWorld} (found : engine.watchers[place]? = some watcher)
    (stepped : watcher.step preference engine.world = some (after, next)) :
    engine.move place preference = ⟨engine.watchers.set place after, next⟩ := by
  simp only [move, found, stepped]

theorem getElem?_move {preference : Preference} {after : Watcher} {next : FeedWorld}
    (found : engine.watchers[place]? = some watcher)
    (stepped : watcher.step preference engine.world = some (after, next)) :
    (engine.move place preference).watchers[place]? = some after := by
  rw [engine.move_eq found stepped]
  exact List.getElem?_set_self (List.getElem?_eq_some_iff.mp found).1

theorem exitAt_eq (found : engine.watchers[place]? = some watcher) :
    engine.exitAt place = watcher.exit? := by
  rw [exitAt, found, Option.bind_some]

theorem collections_move (engine : Engine) (place : Nat) (preference : Preference) :
    (engine.move place preference).watchers.map Watcher.collection =
      engine.watchers.map Watcher.collection := by
  rcases engine.move_cases place preference with same |
    ⟨watcher, _, after, next, found, move, moved⟩
  · rw [same]
  · rcases List.getElem?_eq_some_iff.mp found with ⟨inside, rfl⟩
    have own := List.getElem_map Watcher.collection
      (h := (List.length_map Watcher.collection).symm ▸ inside)
    rw [moved, List.map_set, move.collection, ← own, List.set_getElem_self]

theorem collections_run (engine : Engine) (events : List EngineEvent) :
    (engine.run events).watchers.map Watcher.collection =
      engine.watchers.map Watcher.collection := by
  induction events using List.reverseRecOn with
  | nil => rfl
  | append_singleton events event induction =>
      rw [run_concat, ← induction]
      cases event with
      | around event => rfl
      | step place preference => exact (engine.run events).collections_move place preference

theorem foreign_of_distinct (distinct : (engine.watchers.map Watcher.collection).Nodup)
    (found : engine.watchers[place]? = some watcher)
    (near : engine.watchers[other]? = some neighbour) (different : other ≠ place) :
    watcher.collection ≠ neighbour.collection := by
  intro same
  have inside := (List.getElem?_eq_some_iff.mp near).1
  refine different ((List.getElem?_inj ?_ distinct).mp ?_)
  · rwa [List.length_map]
  · rw [List.getElem?_map, List.getElem?_map, found, near, Option.map_some, Option.map_some, same]

/-! ## What every run keeps -/

/-- Watchers of distinct collections, each ready for news and with its own subscription. -/
structure Sound (engine : Engine) : Prop where
  distinct : (engine.watchers.map Watcher.collection).Nodup
  alert : ∀ {place : Nat} {watcher : Watcher}, engine.watchers[place]? = some watcher →
    watcher.Alert engine.world.switch
  tends : ∀ {place : Nat} {watcher : Watcher}, engine.watchers[place]? = some watcher →
    watcher.Tends engine.world.feed

/-- Watchers that have just been started. No subscription of their collections is held. -/
structure Fresh (engine : Engine) : Prop where
  distinct : (engine.watchers.map Watcher.collection).Nodup
  opening : ∀ watcher ∈ engine.watchers, watcher.phase = .opening
  told : ∀ watcher ∈ engine.watchers, watcher.seen ≤ engine.world.switch.settings
  unheld : ∀ watcher ∈ engine.watchers, ∀ place,
    ¬ engine.world.feed.Holds place watcher.collection

theorem fresh_start {collections : List Collection} (distinct : collections.Nodup)
    (policy : RestartPolicy) {world : FeedWorld}
    (unheld : ∀ collection ∈ collections, ∀ place, ¬ world.feed.Holds place collection) :
    (start collections policy world).Fresh where
  distinct := by simpa [start, Function.comp_def] using distinct
  opening := by simp [start]
  told := by simp [start]
  unheld := by simpa [start] using unheld

theorem Fresh.sound (fresh : engine.Fresh) : engine.Sound where
  distinct := fresh.distinct
  alert found _ := by
    have member := List.mem_of_getElem? found
    exact ⟨fresh.told _ member, fun _ => .inl (fresh.opening _ member)⟩
  tends found place holds := absurd holds (fresh.unheld _ (List.mem_of_getElem? found) place)

namespace Sound

variable (sound : engine.Sound)

include sound

theorem foreign (found : engine.watchers[place]? = some watcher)
    (near : engine.watchers[other]? = some neighbour) (different : other ≠ place) :
    watcher.collection ≠ neighbour.collection :=
  foreign_of_distinct sound.distinct found near different

theorem move (place : Nat) (preference : Preference) : (engine.move place preference).Sound := by
  have distinct := sound.distinct
  rw [← engine.collections_move place preference] at distinct
  rcases engine.move_cases place preference with still |
    ⟨watcher, _, after, next, found, move, moved⟩
  · rwa [still]
  · rw [moved] at distinct ⊢
    refine ⟨distinct, ?alert, ?tends⟩
    case alert =>
      intro other neighbour near
      rcases of_getElem?_set near with ⟨rfl, rfl⟩ | ⟨_, near⟩
      · exact move.alert (sound.alert found)
      · rw [move.switch]
        exact sound.alert near
    case tends =>
      -- The others hold subscriptions of other collections, which the move leaves alone.
      intro other neighbour near
      rcases of_getElem?_set near with ⟨rfl, rfl⟩ | ⟨different, near⟩
      · exact move.tends (sound.tends found)
      · exact move.tends_other (sound.foreign found near different) (sound.tends near)

theorem perform (event : EngineEvent) : (engine.perform event).Sound := by
  cases event with
  | around event =>
      exact ⟨sound.distinct, fun found => (sound.alert found).apply event,
        fun found => (sound.tends found).apply event⟩
  | step place preference => exact sound.move place preference

theorem run (events : List EngineEvent) : (engine.run events).Sound := by
  induction events using List.reverseRecOn with
  | nil => exact sound
  | append_singleton events event induction =>
      rw [run_concat]
      exact induction.perform event

/-! ## Where a watcher does not step -/

theorem untouched_perform (found : engine.watchers[place]? = some watcher) {event : EngineEvent}
    (still : event.IsStepOf place → watcher.exit? ≠ none) :
    (engine.perform event).watchers[place]? = some watcher ∧
      (engine.perform event).world.feed.calls watcher.collection =
        engine.world.feed.calls watcher.collection := by
  cases event with
  | around event => exact ⟨found, by cases event <;> rfl⟩
  | step other preference =>
      rcases engine.move_cases other preference with same |
        ⟨neighbour, _, after, next, near, move, moved⟩
      · simp only [Engine.perform, same]
        exact ⟨found, trivial⟩
      · -- Whoever moves has not ended, so it is another watcher.
        have different : other ≠ place := by
          rintro rfl
          rw [near, Option.some.injEq] at found
          exact still rfl (found ▸ move.unfinished)
        have foreign := sound.foreign near found different.symm
        simp only [Engine.perform, moved]
        refine ⟨by rwa [List.getElem?_set_ne different], ?_⟩
        rw [move.calls, if_neg fun both => foreign both.2, Nat.add_zero]

theorem untouched_run (found : engine.watchers[place]? = some watcher)
    {events : List EngineEvent}
    (still : ∀ event ∈ events, event.IsStepOf place → watcher.exit? ≠ none) :
    (engine.run events).watchers[place]? = some watcher ∧
      (engine.run events).world.feed.calls watcher.collection =
        engine.world.feed.calls watcher.collection := by
  induction events using List.reverseRecOn with
  | nil => exact ⟨found, rfl⟩
  | append_singleton events event induction =>
      rcases induction fun earlier member => still earlier (List.mem_append_left _ member) with
        ⟨there, before⟩
      rcases (sound.run events).untouched_perform there
        (still event (List.mem_append_right _ (.head []))) with ⟨after, calls⟩
      rw [run_concat]
      exact ⟨after, calls.trans before⟩

end Sound

/-! ## Watchers that are let settle -/

theorem exists_run_eq_steps (preference : Preference) (bound : Nat)
    (before rest : List Watcher) (watcher : Watcher) (world : FeedWorld) :
    ∃ events, (Engine.mk (before ++ watcher :: rest) world).run events =
      ⟨before ++ (watcher.steps preference bound world).1 :: rest,
        (watcher.steps preference bound world).2⟩ := by
  induction bound generalizing watcher world with
  | zero => exact ⟨[], rfl⟩
  | succ bound induction =>
      cases stepped : watcher.step preference world with
      | none =>
          simp only [Watcher.steps, stepped]
          exact ⟨[], rfl⟩
      | some pair =>
          have found : (before ++ watcher :: rest)[before.length]? = some watcher := by simp
          have moved := Engine.move_eq ⟨before ++ watcher :: rest, world⟩ found stepped
          simp only [List.set_append_right _ _ (Nat.le_refl _), Nat.sub_self, List.set_cons_zero]
            at moved
          rcases induction pair.1 pair.2 with ⟨events, ran⟩
          refine ⟨.step before.length preference :: events, ?_⟩
          simp only [Watcher.steps, stepped]
          rw [← ran, ← moved]
          rfl

theorem exists_run_eq_settleAll (before rest : List Watcher) (world : FeedWorld) :
    ∃ events, (Engine.mk (before ++ rest) world).run events =
      ⟨before ++ (settleAll rest world).1, (settleAll rest world).2⟩ := by
  induction rest generalizing before world with
  | nil => exact ⟨[], rfl⟩
  | cons watcher rest induction =>
      rcases exists_run_eq_steps .switch (watcher.stepBound world) before rest watcher world with
        ⟨first, settled⟩
      rcases induction (before ++ [(watcher.settle world).1]) (watcher.settle world).2 with
        ⟨later, others⟩
      refine ⟨first ++ later, ?_⟩
      rw [List.append_assoc, List.append_assoc] at others
      rw [run_append, settled]
      exact others

theorem exists_run_eq_react (engine : Engine) (event : FeedEvent) :
    ∃ events, engine.run (.around event :: events) = engine.react event :=
  exists_run_eq_settleAll [] engine.watchers (engine.world.apply event)

theorem finished_of_settleAll {watchers : List Watcher} {world : FeedWorld}
    (alert : ∀ watcher ∈ watchers, watcher.Alert world.switch)
    (told : world.switch.isOn = true ∨ world.switch.isHeld = false) :
    ∀ watcher ∈ (settleAll watchers world).1, watcher.exit? ≠ none := by
  induction watchers generalizing world with
  | nil => exact fun _ member => nomatch member
  | cons first rest induction =>
      have same : (first.settle world).2.switch = world.switch :=
        Watcher.switch_steps .switch _ first world
      intro watcher member
      rcases List.mem_cons.mp member with rfl | later
      · exact Watcher.finished_of_settle (alert first (.head rest)) told
      · have onward : ∀ other ∈ rest, other.Alert (first.settle world).2.switch := by
          intro other member
          rw [same]
          exact alert other (.tail first member)
        have still : (first.settle world).2.switch.isOn = true ∨
            (first.settle world).2.switch.isHeld = false := by rwa [same]
        exact induction onward still watcher later

theorem isStopped_iff :
    engine.isStopped = true ↔ ∀ watcher ∈ engine.watchers, watcher.exit? ≠ none := by
  rw [isStopped, awaited?, Option.isNone_iff_eq_none, List.find?_eq_none]
  simp only [Option.isNone_iff_eq_none, ne_eq]

/-! ## The switch is heeded -/

theorem calls_run_of_on (engine : Engine) (on : engine.world.switch.isOn = true)
    {later : List EngineEvent} (keeps : ∀ event ∈ later, event.KeepsOn)
    (collection : Collection) :
    (engine.run later).world.switch.isOn = true ∧
      (engine.run later).world.feed.calls collection = engine.world.feed.calls collection := by
  induction later using List.reverseRecOn with
  | nil => exact ⟨on, rfl⟩
  | append_singleton later event induction =>
      rcases induction fun earlier member => keeps earlier (List.mem_append_left _ member) with
        ⟨still, asked⟩
      have kept := keeps event (List.mem_append_right _ (.head []))
      rw [run_concat]
      cases event with
      | around event =>
          refine ⟨?_, ?_⟩
          · cases event with
            | turnSwitch isOn =>
                obtain rfl : isOn = true := kept
                exact ShutdownSwitch.isOn_turn still
            | _ => exact still
          · cases event <;> exact asked
      | step place preference =>
          rcases (engine.run later).move_cases place preference with same |
            ⟨watcher, _, after, next, _, move, moved⟩
          · rw [perform, same]
            exact ⟨still, asked⟩
          · rw [perform, moved]
            refine ⟨move.switch ▸ still, ?_⟩
            rw [move.calls, if_neg fun both => by simp [still] at both, Nat.add_zero]
            exact asked

theorem exits_of_waits (found : engine.watchers[place]? = some watcher)
    (waits : watcher.Waits engine.world) (dismissed : watcher.Dismissed engine.world.switch)
    (preference : Preference) : (engine.move place preference).exitAt place = some .shutdown := by
  rcases waits.exits dismissed preference with ⟨after, next, stepped, ended⟩
  rwa [exitAt_eq (getElem?_move found stepped)]

/-- Nobody can tell a watcher anything any more once it was told of everything. -/
theorem abandoned_run (found : engine.watchers[place]? = some watcher)
    (abandoned : engine.world.switch.news watcher.seen = .abandoned)
    (later : List EngineEvent) :
    ∃ after, (engine.run later).watchers[place]? = some after ∧
      (after.exit? ≠ none ∨ (engine.run later).world.switch.news after.seen = .abandoned) := by
  induction later using List.reverseRecOn with
  | nil => exact ⟨watcher, found, .inr abandoned⟩
  | append_singleton later event induction =>
      rcases induction with ⟨after, there, settled⟩
      rw [run_concat]
      generalize engine.run later = engine at there settled ⊢
      cases event with
      | around event =>
          have kept := settled.imp_right fun silent => FeedWorld.abandoned_apply silent event
          exact ⟨after, there, kept⟩
      | step other preference =>
          rcases engine.move_cases other preference with same |
            ⟨mover, _, moved, next, near, move, result⟩
          · exact ⟨after, by rwa [perform, same], by rwa [perform, same]⟩
          · rw [perform, result]
            by_cases own : other = place
            · -- Its own moves end it, or leave it with what it knows.
              subst own
              obtain rfl : mover = after := Option.some.inj (near.symm.trans there)
              have silent := settled.resolve_left (· move.unfinished)
              refine ⟨moved, ?_, move.abandoned silent⟩
              exact List.getElem?_set_self (List.getElem?_eq_some_iff.mp there).1
            · refine ⟨after, by rwa [List.getElem?_set_ne own], ?_⟩
              rwa [move.switch]

/-- A watcher in its surroundings, where nothing makes it miss the switch. -/
structure Heeds (engine : Engine) (place : Nat) (watcher : Watcher) : Prop where
  silent : engine.world.switch.isOn = true →
    ∀ later : List EngineEvent, (∀ event ∈ later, event.KeepsOn) →
      (engine.run later).world.feed.calls watcher.collection =
        engine.world.feed.calls watcher.collection
  opening : engine.world.switch.isOn = true → watcher.phase = .opening →
    ∀ preference, (engine.move place preference).exitAt place = some .shutdown
  /-- If the switch is turned on before the feed has answered, the watcher heeds it where it
  waits next. -/
  asking : engine.world.switch.isOn = true → ∀ answer, watcher.phase = .asking answer →
    ∀ first, let answered := engine.move place first
      answered.exitAt place = some .exhausted ∨
        ∃ after, answered.watchers[place]? = some after ∧
          ((∃ source, after.phase = .reading source) ∨ ∃ wakeAt, after.phase = .resting wakeAt) ∧
          (after.Waits answered.world → ∀ second,
            (answered.move place second).exitAt place = some .shutdown)
  waiting : engine.world.switch.isOn = true → watcher.Waits engine.world →
    ∀ preference, (engine.move place preference).exitAt place = some .shutdown
  /-- A watcher whose rest is over ends as well, or looks at the switch next. -/
  waking : engine.world.switch.isOn = true → ∀ wakeAt, watcher.phase = .resting wakeAt →
    ∀ first second, (engine.move place first).exitAt place = some .shutdown ∨
      ((engine.move place first).move place second).exitAt place = some .shutdown
  /-- Nobody is left who could set the switch, and the watcher was told of every setting. -/
  abandoned : engine.world.switch.news watcher.seen = .abandoned →
    ∀ (later : List EngineEvent) after, (engine.run later).watchers[place]? = some after →
      after.Waits (engine.run later).world →
        ∀ preference, ((engine.run later).move place preference).exitAt place = some .shutdown
  dropped : watcher.Idle engine.world → watcher.exit? = none →
    ∀ preference, ((engine.apply .abandonSwitch).move place preference).exitAt place =
      some .shutdown
  /-- Of a setting that it was not told of before, a watcher is told first. It goes on reading
  then, and ends. -/
  lagging : engine.world.switch.isHeld = false → watcher.Waits engine.world →
    ∀ first, let told := engine.move place first
      told.exitAt place = some .shutdown ∨
        ∃ after, told.watchers[place]? = some after ∧
          told.world.switch.news after.seen = .abandoned ∧
          (∀ source, watcher.phase = .reading source → ∀ second,
            (told.move place second).exitAt place = some .shutdown)
  ended : ∀ exit, watcher.exit? = some exit → ∀ later : List EngineEvent,
    (engine.run later).exitAt place = some exit ∧
      (engine.run later).world.feed.openSubscriptions watcher.collection = 0 ∧
      (engine.run later).world.feed.calls watcher.collection =
        engine.world.feed.calls watcher.collection

namespace Sound

variable (sound : engine.Sound)

include sound

theorem heeds (found : engine.watchers[place]? = some watcher) : engine.Heeds place watcher := by
  have alert := sound.alert found
  constructor
  case silent =>
    intro on later keeps
    exact (engine.calls_run_of_on on keeps watcher.collection).2
  case opening =>
    intro on opening preference
    rw [exitAt_eq (getElem?_move found (Watcher.step_of_opening opening on preference))]
    rfl
  case waiting =>
    intro on waits preference
    rcases waits.later with ⟨unfinished, later⟩
    exact exits_of_waits found waits (alert.dismissed unfinished later on) preference
  case waking =>
    intro on wakeAt resting first second
    have dismissed := alert.dismissed (by simp [Watcher.exit?, resting]) (by simp [resting]) on
    rcases Watcher.step_of_resting resting dismissed first with ⟨after, stepped, ended | opening⟩
    · exact .inl ((exitAt_eq (getElem?_move found stepped)).trans ended)
    · refine .inr ?_
      have there := getElem?_move found stepped
      have same : (engine.move place first).world = engine.world := by
        rw [engine.move_eq found stepped]
      have looked := Watcher.step_of_opening opening (same ▸ on) second
      rw [exitAt_eq (getElem?_move there looked)]
      rfl
  case asking =>
    intro on answer asking first answered
    rcases Watcher.step_of_asking asking first with ⟨after, stepped, exhausted | later⟩
    · exact .inl ((exitAt_eq (getElem?_move found stepped)).trans exhausted)
    · have there : answered.watchers[place]? = some after := getElem?_move found stepped
      refine .inr ⟨after, there, later, fun waits second => ?_⟩
      have world : answered.world = engine.world := by
        rw [show answered = _ from engine.move_eq found stepped]
      have heeded := (sound.move place first).alert there
      rw [show (engine.move place first).world = engine.world from world] at heeded
      rcases waits.later with ⟨unfinished, unopened⟩
      exact exits_of_waits there waits
        (world ▸ heeded.dismissed unfinished unopened on) second
  case abandoned =>
    intro abandoned later after there waits preference
    rcases engine.abandoned_run found abandoned later with ⟨same, known, settled⟩
    obtain rfl : same = after := Option.some.inj (known.symm.trans there)
    exact exits_of_waits there waits (.inl (settled.resolve_left (· waits.later.1))) preference
  case lagging =>
    intro unheld waits first told
    rcases waits.told unheld first with ⟨after, next, stepped, outcome⟩
    have there : told.watchers[place]? = some after := getElem?_move found stepped
    have world : told.world = next := by rw [show told = _ from engine.move_eq found stepped]
    rcases outcome with ended | ⟨rfl, silent, still⟩
    · exact .inl ((exitAt_eq there).trans ended)
    · refine .inr ⟨after, there, world ▸ silent, fun source reading second => ?_⟩
      exact exits_of_waits there (world ▸ still source reading) (.inl (world ▸ silent)) second
  case dropped =>
    intro idle unfinished preference
    rcases Watcher.waits_of_idle idle unfinished with ⟨waits, told⟩
    have there : (engine.apply .abandonSwitch).watchers[place]? = some watcher := found
    exact exits_of_waits there waits
      (Watcher.dismissed_of_abandoned told) preference
  case ended =>
    intro exit finished later
    have gone : watcher.exit? ≠ none := by simp [finished]
    rcases sound.untouched_run found (fun _ (_ : _ ∈ later) _ => gone) with ⟨there, asked⟩
    have tends := (sound.run later).tends there
    exact ⟨(exitAt_eq there).trans finished,
      Watcher.openSubscriptions_of_finished tends gone, asked⟩

theorem openSubscriptions_of_stopped (stopped : engine.isStopped = true)
    {collection : Collection} (watched : collection ∈ engine.watchers.map Watcher.collection) :
    engine.world.feed.openSubscriptions collection = 0 := by
  rcases List.mem_map.mp watched with ⟨watcher, member, rfl⟩
  rcases List.getElem?_of_mem member with ⟨place, found⟩
  exact Watcher.openSubscriptions_of_finished (sound.tends found)
    (isStopped_iff.mp stopped watcher member)

theorem isStopped_settle
    (told : engine.world.switch.isOn = true ∨ engine.world.switch.isHeld = false) :
    engine.settle.isStopped = true := by
  refine isStopped_iff.mpr (finished_of_settleAll (fun watcher member => ?_) told)
  rcases List.getElem?_of_mem member with ⟨place, found⟩
  exact sound.alert found

end Sound

structure NeverMisses (started : Engine) (events : List EngineEvent) : Prop where
  heeds : ∀ place watcher, (started.run events).watchers[place]? = some watcher →
    (started.run events).Heeds place watcher
  /-- Nothing is asked of the feed if the switch is on when a watcher first steps. -/
  refrains : ∀ place watcher, started.watchers[place]? = some watcher →
    (∀ event ∈ events, ¬ event.IsStepOf place) →
      (started.run events).world.switch.isOn = true → ∀ preference later,
        let afterwards := ((started.run events).move place preference).run later
        afterwards.exitAt place = some .shutdown ∧
          afterwards.world.feed.calls watcher.collection =
            started.world.feed.calls watcher.collection
  stops : (started.run events).world.switch.isOn = true ∨
      (started.run events).world.switch.isHeld = false →
    (started.run events).settle.isStopped = true
  stopped : (started.run events).isStopped = true →
    ∀ place watcher, started.watchers[place]? = some watcher →
      (∃ exit, (started.run events).exitAt place = some exit) ∧
        (started.run events).world.feed.openSubscriptions watcher.collection = 0

/-- Whatever order watchers step in and whatever happens around them. -/
theorem shutdown_is_never_missed {started : Engine} (fresh : started.Fresh)
    (events : List EngineEvent) : started.NeverMisses events := by
  have sound := fresh.sound.run events
  constructor
  case heeds => exact fun _ _ found => sound.heeds found
  case refrains =>
    intro place watcher found unstepped on preference later afterwards
    rcases fresh.sound.untouched_run found
      (fun event member own => absurd own (unstepped event member)) with ⟨there, asked⟩
    have opening := fresh.opening watcher (List.mem_of_getElem? found)
    have refrained := Watcher.step_of_opening opening on preference
    have after := getElem?_move there refrained
    rcases ((sound.move place preference).heeds after).ended .shutdown rfl later with
      ⟨exit, _, unasked⟩
    refine ⟨exit, unasked.trans ?_⟩
    rw [Engine.move_eq _ there refrained]
    exact asked
  case stops => exact sound.isStopped_settle
  case stopped =>
    intro stopped place watcher found
    have kept := started.collections_run events
    have own : ((started.run events).watchers.map Watcher.collection)[place]? =
        some watcher.collection := by
      rw [kept, List.getElem?_map, found, Option.map_some]
    refine ⟨?_, sound.openSubscriptions_of_stopped stopped (List.mem_of_getElem? own)⟩
    rw [List.getElem?_map, Option.map_eq_some_iff] at own
    rcases own with ⟨after, there, _⟩
    have ended := isStopped_iff.mp stopped after (List.mem_of_getElem? there)
    rw [exitAt_eq there]
    exact Option.ne_none_iff_exists'.mp ended

/-- The switch is turned on while the feed has not answered one watcher, another rests and a
third has not begun. -/
theorem shutdown_is_never_missed_of_all :
    let started := start Collection.all ⟨1, 1000⟩ {}
    let events : List EngineEvent :=
      [.step 0 .other, .step 1 .other, .step 1 .other, .around (.turnSwitch false),
        .step 1 .other, .around (.endStreams .commentThread), .step 1 .other,
        .around (.turnSwitch true), .step 0 .other, .step 1 .other, .step 0 .other,
        .step 2 .other]
    started.Fresh ∧ (started.run events).isStopped = true ∧ started.NeverMisses events := by
  intro started events
  have fresh : started.Fresh := fresh_start (by decide) _ (by simp [MemoryFeed.Holds])
  exact ⟨fresh, by decide, shutdown_is_never_missed fresh events⟩

/-- A watcher at rest does not end although nobody is left who could set the switch: it was set
once more before, and left off. The feed is asked again. -/
theorem abandoned_unheeded :
    let started := start [.comment] ⟨5, 1000⟩ {}
    let events : List EngineEvent :=
      [.step 0 .other, .step 0 .other, .around (.endStreams .comment), .step 0 .other,
        .around (.turnSwitch false), .around .abandonSwitch]
    let dropped := started.run events
    dropped.world.switch.isHeld = false ∧
      (∃ watcher, dropped.watchers[0]? = some watcher ∧ watcher.Waits dropped.world) ∧
      ∀ first second, (dropped.move 0 first).exitAt 0 = none ∧
        ((dropped.move 0 first).move 0 second).exitAt 0 = none ∧
        ((dropped.move 0 first).move 0 second).world.feed.calls .comment =
          dropped.world.feed.calls .comment + 1 := by
  refine ⟨rfl, ⟨_, rfl, .inr ⟨1000, rfl, by decide⟩⟩, fun first second => ?_⟩
  cases first <;> cases second <;> exact ⟨rfl, rfl, rfl⟩

end Engine

end SharedEditing
