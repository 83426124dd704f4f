import SharedEditing.Feed.Engine

/-! # What a watcher can do

Every step of a watcher is one of a few moves. Each says what had to be the case, what
the watcher and its surroundings are afterwards, and which change was handed to fan-out,
if any. What every move keeps, every run of the watcher keeps. -/

namespace SharedEditing.Watcher

/-- The switch is on, or nobody is left who could set it, and it is news to the watcher. -/
def Dismissed (watcher : Watcher) (switch : ShutdownSwitch) : Prop :=
  switch.news watcher.seen = .abandoned ∨ switch.news watcher.seen = .set ∧ switch.isOn = true

inductive Move (watcher : Watcher) (world : FeedWorld) :
    Option Change → Watcher → FeedWorld → Prop where
  /-- The switch is on before anything is opened. -/
  | refrained (opening : watcher.phase = .opening) (on : world.switch.isOn = true) :
      Move watcher world none (watcher.finish .shutdown) world
  | asked (opening : watcher.phase = .opening) (off : world.switch.isOn = false) :
      Move watcher world none
        { watcher with phase := .asking (world.feed.watch watcher.collection).2.toOption }
        { world with feed := (world.feed.watch watcher.collection).1 }
  | opened {place : Nat} (asking : watcher.phase = .asking (some place)) :
      Move watcher world none { watcher with phase := .reading place } world
  | unopened (asking : watcher.phase = .asking none) :
      Move watcher world none (watcher.failed world.clock) world
  | handed {place : Nat} {change : Change} (reading : watcher.phase = .reading place)
      (front : world.feed.peek place = .item (.ok change)) :
      Move watcher world (some change) { watcher with failures := 0 }
        { world with
          feed := world.feed.take place
          recorder := (world.recorder.handle change).2 }
  | skipped {place : Nat} {error : FeedError} (reading : watcher.phase = .reading place)
      (front : world.feed.peek place = .item (.error error)) :
      Move watcher world none watcher { world with feed := world.feed.take place }
  | ended {place : Nat} (reading : watcher.phase = .reading place)
      (front : world.feed.peek place = .ended) :
      Move watcher world none (watcher.failed world.clock)
        { world with feed := world.feed.release place }
  | closed {place : Nat} (seen : Nat) (reading : watcher.phase = .reading place)
      (dismissed : watcher.Dismissed world.switch) :
      Move watcher world none ({ watcher with seen }.finish .shutdown)
        { world with feed := world.feed.release place }
  | reassured {place : Nat} (reading : watcher.phase = .reading place)
      (news : world.switch.news watcher.seen = .set) (off : world.switch.isOn = false) :
      Move watcher world none (watcher.told world.switch) world
  | dismissed {wakeAt : Nat} (seen : Nat) (resting : watcher.phase = .resting wakeAt)
      (dismissed : watcher.Dismissed world.switch) :
      Move watcher world none ({ watcher with seen }.finish .shutdown) world
  | roused {wakeAt : Nat} (resting : watcher.phase = .resting wakeAt)
      (news : world.switch.news watcher.seen = .set) (off : world.switch.isOn = false) :
      Move watcher world none { watcher.told world.switch with phase := .opening } world
  | woke {wakeAt : Nat} (resting : watcher.phase = .resting wakeAt)
      (due : wakeAt ≤ world.clock) :
      Move watcher world none { watcher with phase := .opening } world

def frontChange? (feed : MemoryFeed) (place : Nat) : Option Change :=
  match feed.peek place with
  | .item (.ok change) => some change
  | _ => none

def hands? (preference : Preference) (watcher : Watcher) (world : FeedWorld) : Option Change :=
  match watcher.phase with
  | .reading place =>
      if preference = .switch ∧ (watcher.heedReading world place).isSome then none
      else frontChange? world.feed place
  | _ => none

variable {watcher after : Watcher} {world next : FeedWorld} {preference : Preference}

theorem move_of_opening (world : FeedWorld) (opening : watcher.phase = .opening) :
    Move watcher world none (watcher.openFeed world).1 (watcher.openFeed world).2 := by
  unfold openFeed
  cases on : world.switch.isOn with
  | true => exact .refrained opening on
  | false => exact .asked opening on

theorem move_of_asking {answer : Option Nat} (world : FeedWorld)
    (asking : watcher.phase = .asking answer) :
    Move watcher world none (watcher.answered world.clock answer) world := by
  cases answer with
  | some place => exact .opened asking
  | none => exact .unopened asking

theorem heedReading_cases {place : Nat}
    (heeded : watcher.heedReading world place = some (after, next)) :
    (watcher.Dismissed world.switch ∧ ∃ seen,
        (after, next) = { watcher with seen }.closeFeed world place) ∨
      (world.switch.news watcher.seen = .set ∧ world.switch.isOn = false ∧
        (after, next) = (watcher.told world.switch, world)) := by
  unfold heedReading at heeded
  cases news : world.switch.news watcher.seen with
  | none => simp [news] at heeded
  | abandoned =>
      simp only [news, Option.some.injEq] at heeded
      exact .inl ⟨.inl news, watcher.seen, heeded.symm⟩
  | set =>
      cases on : world.switch.isOn with
      | true =>
          simp only [news, on, if_true, Option.some.injEq] at heeded
          exact .inl ⟨.inr ⟨news, on⟩, world.switch.settings, heeded.symm⟩
      | false =>
          simp only [news, on, Bool.false_eq_true, if_false, Option.some.injEq] at heeded
          exact .inr ⟨rfl, rfl, heeded.symm⟩

theorem move_of_heedReading {place : Nat} (reading : watcher.phase = .reading place)
    (heeded : watcher.heedReading world place = some (after, next)) :
    Move watcher world none after next := by
  rcases heedReading_cases heeded with ⟨dismissed, seen, same⟩ | ⟨news, off, same⟩
  · cases same
    exact .closed seen reading dismissed
  · cases same
    exact .reassured reading news off

theorem move_of_receive {place : Nat} (reading : watcher.phase = .reading place)
    (received : watcher.receive world place = some (after, next)) :
    Move watcher world (frontChange? world.feed place) after next := by
  unfold receive at received
  unfold frontChange?
  cases front : world.feed.peek place with
  | nothing => simp [front] at received
  | ended =>
      simp only [front, Option.some.injEq] at received
      cases received
      exact .ended reading front
  | item item =>
      cases item with
      | error error =>
          simp only [front, Option.some.injEq] at received
          cases received
          exact .skipped reading front
      | ok change =>
          simp only [front, Option.some.injEq] at received
          cases received
          exact .handed reading front

theorem move_of_heedResting {wakeAt : Nat} (resting : watcher.phase = .resting wakeAt)
    (heeded : watcher.heedResting world = some (after, next)) :
    Move watcher world none after next := by
  unfold heedResting at heeded
  cases news : world.switch.news watcher.seen with
  | none => simp [news] at heeded
  | abandoned =>
      simp only [news, Option.some.injEq] at heeded
      cases heeded
      exact .dismissed watcher.seen resting (.inl news)
  | set =>
      cases on : world.switch.isOn with
      | true =>
          simp only [news, on, if_true, Option.some.injEq] at heeded
          cases heeded
          exact .dismissed world.switch.settings resting (.inr ⟨news, on⟩)
      | false =>
          simp only [news, on, Bool.false_eq_true, if_false, Option.some.injEq] at heeded
          cases heeded
          exact .roused resting news on

theorem move_of_wake {wakeAt : Nat} (resting : watcher.phase = .resting wakeAt)
    (woken : watcher.wake world wakeAt = some (after, next)) :
    Move watcher world none after next := by
  unfold wake at woken
  split at woken
  · rename_i due
    cases woken
    exact .woke resting due
  · cases woken

theorem receive_eq_none_iff {place : Nat} :
    watcher.receive world place = none ↔ world.feed.peek place = .nothing := by
  unfold receive
  cases world.feed.peek place with
  | item item => cases item <;> simp
  | _ => simp

/-- Of two things one is served, and if it is not the preferred one, that one was not ready. -/
theorem served_of_either {switch other : Option (Watcher × FeedWorld)}
    {result : Watcher × FeedWorld} (served : either preference switch other = some result) :
    (switch = some result ∧ (preference = .switch ∨ other = none)) ∨
      (other = some result ∧ (preference = .other ∨ switch = none)) := by
  cases preference with
  | switch =>
      rcases Option.or_eq_some_iff.mp served with first | ⟨unready, second⟩
      · exact .inl ⟨first, .inl rfl⟩
      · exact .inr ⟨second, .inr unready⟩
  | other =>
      rcases Option.or_eq_some_iff.mp served with first | ⟨unready, second⟩
      · exact .inr ⟨first, .inl rfl⟩
      · exact .inl ⟨second, .inr unready⟩

/-- While reading the switch is served only if it is preferred or nothing is there to be
received, and what is there only if the switch is not. -/
theorem served_of_reading {place : Nat} (reading : watcher.phase = .reading place)
    (stepped : watcher.step preference world = some (after, next)) :
    (watcher.heedReading world place = some (after, next) ∧
        (preference = .switch ∨ world.feed.peek place = .nothing)) ∨
      (watcher.receive world place = some (after, next) ∧
        ¬ (preference = .switch ∧ (watcher.heedReading world place).isSome)) := by
  unfold step at stepped
  simp only [reading] at stepped
  rcases served_of_either stepped with ⟨heeded, first⟩ | ⟨received, first⟩
  · exact .inl ⟨heeded, first.imp_right receive_eq_none_iff.mp⟩
  · refine .inr ⟨received, ?_⟩
    rintro ⟨rfl, heeded⟩
    rcases first with impossible | unready
    · cases impossible
    · simp [unready] at heeded

theorem move_of_step (stepped : watcher.step preference world = some (after, next)) :
    Move watcher world (watcher.hands? preference world) after next := by
  unfold hands?
  cases phase : watcher.phase with
  | opening =>
      unfold step at stepped
      simp only [phase, Option.some.injEq] at stepped
      have move := move_of_opening world phase
      rw [stepped] at move
      exact move
  | asking answer =>
      unfold step at stepped
      simp only [phase, Option.some.injEq] at stepped
      cases stepped
      exact move_of_asking world phase
  | reading place =>
      simp only
      rcases served_of_reading phase stepped with ⟨heeded, first⟩ | ⟨received, unheeded⟩
      · have silent : (if preference = .switch ∧ (watcher.heedReading world place).isSome
            then none else frontChange? world.feed place) = none := by
          rcases first with rfl | nothing
          · simp [heeded]
          · simp [frontChange?, nothing]
        rw [silent]
        exact move_of_heedReading phase heeded
      · rw [if_neg unheeded]
        exact move_of_receive phase received
  | resting wakeAt =>
      unfold step at stepped
      simp only [phase] at stepped ⊢
      rcases served_of_either stepped with ⟨heeded, _⟩ | ⟨woken, _⟩
      · exact move_of_heedResting phase heeded
      · exact move_of_wake phase woken
  | finished exit => simp [step, phase] at stepped

/-! ## What every move keeps -/

theorem subscription_failed (watcher : Watcher) (now : Nat) :
    (watcher.failed now).phase.subscription? = none := by
  unfold failed
  split <;> rfl

theorem collection_failed (watcher : Watcher) (now : Nat) :
    (watcher.failed now).collection = watcher.collection := by
  unfold failed
  split <;> rfl

theorem policy_failed (watcher : Watcher) (now : Nat) :
    (watcher.failed now).policy = watcher.policy := by
  unfold failed
  split <;> rfl

theorem seen_failed (watcher : Watcher) (now : Nat) : (watcher.failed now).seen = watcher.seen := by
  unfold failed
  split <;> rfl

theorem exit_failed (watcher : Watcher) (now : Nat) :
    (watcher.failed now).exit? ≠ some .shutdown := by
  unfold failed
  split <;> simp [exit?, finish]

theorem Move.unfinished {change : Option Change} (move : Move watcher world change after next) :
    watcher.exit? = none := by
  unfold exit?
  cases move <;> simp [*]

theorem Move.nothing_of_shutdown {change : Option Change}
    (move : Move watcher world change after next) (dismissed : after.exit? = some .shutdown) :
    change = none := by
  cases move with
  | handed reading front =>
      unfold exit? at dismissed
      simp [reading] at dismissed
  | _ => rfl

theorem Move.collection {change : Option Change} (move : Move watcher world change after next) :
    after.collection = watcher.collection := by
  cases move with
  | unopened | ended => exact watcher.collection_failed world.clock
  | _ => rfl

theorem Move.recorder {change : Option Change} (move : Move watcher world change after next) :
    next.recorder =
      (change.map fun change => (world.recorder.handle change).2).getD world.recorder := by
  cases move <;> rfl

theorem Move.switch {change : Option Change} (move : Move watcher world change after next) :
    next.switch = world.switch := by
  cases move <;> rfl

theorem not_dismissed {switch : ShutdownSwitch} (off : switch.isOn = false)
    (held : switch.isHeld = true) : ¬ watcher.Dismissed switch := by
  rintro (abandoned | ⟨_, on⟩)
  · simp only [ShutdownSwitch.news, held, if_true] at abandoned
    split at abandoned <;> cases abandoned
  · simp [off] at on

theorem Move.remains {change : Option Change} (move : Move watcher world change after next)
    (off : world.switch.isOn = false) (held : world.switch.isHeld = true) :
    after.exit? ≠ some .shutdown := by
  have unfinished := move.unfinished
  cases move with
  | refrained opening on => simp [off] at on
  | closed seen reading dismissed => exact absurd dismissed (not_dismissed off held)
  | dismissed seen resting dismissed => exact absurd dismissed (not_dismissed off held)
  | unopened => exact watcher.exit_failed _
  | ended => exact watcher.exit_failed _
  | handed | skipped | reassured =>
      change watcher.exit? ≠ some .shutdown
      simp [unfinished]
  | asked | opened | roused | woke => simp [exit?]

end SharedEditing.Watcher
