import SharedEditing.Proofs.Feed.Course
import SharedEditing.Proofs.Feed.Settling

/-! # A watcher heeds the switch

A watcher that waits is ready for news of the switch, and it never takes news for old that
it was not told of. Whichever way it ends, it holds no subscription any more. -/

namespace SharedEditing

theorem ShutdownSwitch.isOn_turn {switch : ShutdownSwitch} (on : switch.isOn = true) :
    (switch.turn true).isOn = true := by
  unfold turn
  split
  · rfl
  · exact on

theorem ShutdownSwitch.isHeld_of_abandoned {switch : ShutdownSwitch} {seen : Nat}
    (abandoned : switch.news seen = .abandoned) : switch.isHeld = false := by
  unfold news at abandoned
  cases held : switch.isHeld with
  | false => rfl
  | true =>
      rw [held, if_pos rfl] at abandoned
      split at abandoned <;> cases abandoned

theorem FeedWorld.abandoned_apply {world : FeedWorld} {seen : Nat}
    (abandoned : world.switch.news seen = .abandoned) (event : FeedEvent) :
    (world.apply event).switch.news seen = .abandoned := by
  have unheld := ShutdownSwitch.isHeld_of_abandoned abandoned
  cases event with
  | turnSwitch isOn =>
      have still : world.switch.turn isOn = world.switch := if_neg (by simp [unheld])
      rwa [apply, still]
  | abandonSwitch =>
      have still : world.switch.abandon = world.switch := by
        rw [ShutdownSwitch.abandon, ← unheld]
      rwa [apply, still]
  | _ => exact abandoned

/-! ## Subscriptions that are held -/

namespace MemoryFeed

def Holds (feed : MemoryFeed) (place : Nat) (collection : Collection) : Prop :=
  ∃ subscription, feed.subscriptions[place]? = some subscription ∧
    subscription.collection = collection ∧ subscription.isHeld = true

variable {feed : MemoryFeed} {place other : Nat} {collection : Collection}

theorem Holds.of_watch {asked : Collection}
    (holds : (feed.watch asked).1.Holds place collection) :
    feed.Holds place collection ∨ asked = collection ∧
      (feed.watch asked).2.toOption = some place := by
  rcases holds with ⟨subscription, found, own, held⟩
  rw [subscriptions_watch] at found
  by_cases inside : place < feed.subscriptions.length
  · rw [List.getElem?_append_left inside] at found
    exact .inl ⟨subscription, found, own, held⟩
  · rw [List.getElem?_append_right (Nat.le_of_not_lt inside)] at found
    cases unavailable : feed.isUnavailable with
    | true => simp [unavailable] at found
    | false =>
        simp only [unavailable, Bool.false_eq_true, if_false, List.getElem?_singleton,
          Option.ite_none_right_eq_some, Option.some.injEq] at found
        rcases found with ⟨last, rfl⟩
        exact .inr ⟨own, answer_eq_some_iff.mpr ⟨unavailable, by omega⟩⟩

theorem Holds.of_take (holds : (feed.take other).Holds place collection) :
    feed.Holds place collection := by
  rcases holds with ⟨after, found, own, held⟩
  rw [getElem?_take, Option.map_eq_some_iff] at found
  rcases found with ⟨subscription, found, rfl⟩
  split at own <;> split at held <;> exact ⟨subscription, found, own, held⟩

theorem Holds.of_release (holds : (feed.release other).Holds place collection) :
    feed.Holds place collection ∧ other ≠ place := by
  rcases holds with ⟨after, found, own, held⟩
  rw [getElem?_release, Option.map_eq_some_iff] at found
  rcases found with ⟨subscription, found, rfl⟩
  by_cases same : other = place
  · simp [same] at held
  · rw [if_neg same] at own held
    exact ⟨⟨subscription, found, own, held⟩, same⟩

theorem Holds.of_apply {world : FeedWorld} {event : FeedEvent}
    (holds : (world.apply event).feed.Holds place collection) :
    world.feed.Holds place collection := by
  rcases holds with ⟨after, found, own, held⟩
  rw [world.subscriptions_apply, List.getElem?_map, Option.map_eq_some_iff] at found
  rcases found with ⟨subscription, found, rfl⟩
  exact ⟨subscription, found, (subscription.collection_hear event).symm.trans own,
    (subscription.isHeld_hear event).symm.trans held⟩

theorem openSubscriptions_of_unheld (unheld : ∀ place, ¬ feed.Holds place collection) :
    feed.openSubscriptions collection = 0 := by
  rw [openSubscriptions, List.length_eq_zero_iff, List.filter_eq_nil_iff]
  intro subscription member reached
  rcases List.getElem?_of_mem member with ⟨place, found⟩
  simp only [reaches, Bool.and_eq_true, beq_iff_eq] at reached
  exact unheld place ⟨subscription, found, reached.1.1, reached.2⟩

end MemoryFeed

namespace Watcher

/-- The only subscription of its collection that is held is the one that the watcher has. -/
def Tends (watcher : Watcher) (feed : MemoryFeed) : Prop :=
  ∀ place, feed.Holds place watcher.collection → watcher.phase.subscription? = some place

/-- A watcher that has not ended counts what it has not been told of as news. When the switch
is on it has not been told so, except where it is about to look. -/
def Alert (watcher : Watcher) (switch : ShutdownSwitch) : Prop :=
  watcher.exit? = none → watcher.seen ≤ switch.settings ∧
    (switch.isOn = true → watcher.phase = .opening ∨ watcher.seen ≠ switch.settings)

def Waits (watcher : Watcher) (world : FeedWorld) : Prop :=
  (∃ place, watcher.phase = .reading place ∧ world.feed.peek place = .nothing) ∨
    ∃ wakeAt, watcher.phase = .resting wakeAt ∧ world.clock < wakeAt

variable {watcher after other : Watcher} {world next : FeedWorld} {change : Option Change}

theorem openSubscriptions_of_finished (tends : watcher.Tends world.feed)
    (finished : watcher.exit? ≠ none) :
    world.feed.openSubscriptions watcher.collection = 0 := by
  refine MemoryFeed.openSubscriptions_of_unheld fun place holds => finished ?_
  have has := tends place holds
  unfold WatcherPhase.subscription? at has
  unfold exit?
  cases phase : watcher.phase with
  | finished exit => simp [phase] at has
  | _ => rfl

/-! ## What a move keeps -/

theorem Move.tends (move : Move watcher world change after next)
    (tends : watcher.Tends world.feed) : after.Tends next.feed := by
  intro place holds
  rw [move.collection] at holds
  have unheld (none : watcher.phase.subscription? = none) :
      ¬ world.feed.Holds place watcher.collection := by
    intro holds
    simp [tends place holds] at none
  cases move with
  | refrained opening => exact absurd holds (unheld (by rw [opening]; rfl))
  | asked opening off =>
      -- Whoever asks has held nothing, so what is held is what it will be answered.
      rcases holds.of_watch with held | ⟨_, answer⟩
      · exact absurd held (unheld (by rw [opening]; rfl))
      · exact answer
  | opened asking =>
      have has := tends place holds
      rwa [asking] at has
  | unopened asking => exact absurd holds (unheld (by rw [asking]; rfl))
  | handed | skipped => exact tends place holds.of_take
  | ended reading | closed _ reading =>
      rcases holds.of_release with ⟨held, different⟩
      have has := (subscription_of_reading reading).symm.trans (tends place held)
      exact absurd (Option.some.inj has) different
  | reassured => exact tends place holds
  | dismissed _ resting | roused resting | woke resting =>
      exact absurd holds (unheld (by rw [resting]; rfl))

theorem Move.tends_other (move : Move watcher world change after next)
    (different : watcher.collection ≠ other.collection) (tends : other.Tends world.feed) :
    other.Tends next.feed := by
  intro place holds
  apply tends place
  cases move with
  | asked =>
      rcases holds.of_watch with held | ⟨same, _⟩
      · exact held
      · exact absurd same different
  | handed | skipped => exact holds.of_take
  | ended | closed => exact holds.of_release.1
  | _ => exact holds

theorem Move.alert (move : Move watcher world change after next)
    (alert : watcher.Alert world.switch) : after.Alert next.switch := by
  rw [move.switch]
  rcases alert move.unfinished with ⟨told, news⟩
  intro unfinished
  cases move with
  | refrained | closed | dismissed => cases unfinished
  | asked opening off => exact ⟨told, fun on => absurd on (by simp [off])⟩
  | opened asking => exact ⟨told, fun on => .inr ((news on).resolve_left (by simp [asking]))⟩
  | unopened asking =>
      rw [seen_failed]
      exact ⟨told, fun on => .inr ((news on).resolve_left (by simp [asking]))⟩
  | handed | skipped => exact ⟨told, news⟩
  | ended reading =>
      rw [seen_failed]
      exact ⟨told, fun on => (news on).imp_left fun opening => by simp [opening] at reading⟩
  | reassured reading set off => exact ⟨Nat.le_refl _, fun on => absurd on (by simp [off])⟩
  | roused => exact ⟨Nat.le_refl _, fun _ => .inl rfl⟩
  | woke => exact ⟨told, fun _ => .inl rfl⟩

theorem Alert.apply (alert : watcher.Alert world.switch) (event : FeedEvent) :
    watcher.Alert (world.apply event).switch := by
  intro unfinished
  rcases alert unfinished with ⟨told, news⟩
  cases event with
  | turnSwitch isOn =>
      simp only [FeedWorld.apply, ShutdownSwitch.turn]
      split
      · exact ⟨Nat.le_succ_of_le told, fun _ => .inr (Nat.ne_of_lt (Nat.lt_succ_of_le told))⟩
      · exact ⟨told, news⟩
  | _ => exact ⟨told, news⟩

theorem Tends.apply (tends : watcher.Tends world.feed) (event : FeedEvent) :
    watcher.Tends (world.apply event).feed :=
  fun place holds => tends place holds.of_apply

/-! ## What a watcher does that is told to end -/

theorem Alert.dismissed (alert : watcher.Alert world.switch) (unfinished : watcher.exit? = none)
    (later : watcher.phase ≠ .opening) (on : world.switch.isOn = true) :
    watcher.Dismissed world.switch := by
  have unseen := ((alert unfinished).2 on).resolve_left later
  exact .inr ⟨if_pos unseen, on⟩

theorem step_of_opening (opening : watcher.phase = .opening) (on : world.switch.isOn = true)
    (preference : Preference) :
    watcher.step preference world = some (watcher.finish .shutdown, world) := by
  simp only [step, opening, openFeed, on, if_true]

/-- An abandoned switch tells a watcher to end, unless it was set and left off last. -/
theorem dismissed_or_off (abandoned : world.switch.isHeld = false) :
    watcher.Dismissed world.switch ∨
      world.switch.news watcher.seen = .set ∧ world.switch.isOn = false := by
  cases news : world.switch.news watcher.seen with
  | none =>
      simp only [ShutdownSwitch.news, abandoned, Bool.false_eq_true, if_false] at news
      split at news <;> cases news
  | abandoned => exact .inl (.inl news)
  | set =>
      cases on : world.switch.isOn with
      | true => exact .inl (.inr ⟨news, on⟩)
      | false => exact .inr ⟨rfl, rfl⟩

theorem heedReading_of_dismissed (dismissed : watcher.Dismissed world.switch) (place : Nat) :
    ∃ seen, watcher.heedReading world place =
      some ({ watcher with seen }.closeFeed world place) := by
  unfold heedReading
  rcases dismissed with abandoned | ⟨set, on⟩
  · exact ⟨watcher.seen, by simp only [abandoned]⟩
  · exact ⟨world.switch.settings, by simp only [set, on, if_true]; rfl⟩

theorem heedResting_of_dismissed (dismissed : watcher.Dismissed world.switch) :
    ∃ seen, watcher.heedResting world = some ({ watcher with seen }.finish .shutdown, world) := by
  unfold heedResting
  rcases dismissed with abandoned | ⟨set, on⟩
  · exact ⟨watcher.seen, by simp only [abandoned]⟩
  · exact ⟨world.switch.settings, by simp only [set, on, if_true]; rfl⟩

/-- Nothing else is ready where a watcher waits, so it ends whatever is preferred. -/
theorem Waits.exits (waits : watcher.Waits world) (dismissed : watcher.Dismissed world.switch)
    (preference : Preference) :
    ∃ after next, watcher.step preference world = some (after, next) ∧
      after.exit? = some .shutdown := by
  rcases waits with ⟨place, reading, nothing⟩ | ⟨wakeAt, resting, early⟩
  · rcases heedReading_of_dismissed dismissed place with ⟨seen, heeded⟩
    have unready : watcher.receive world place = none := receive_eq_none_iff.mpr nothing
    refine ⟨{ watcher with seen }.finish .shutdown,
      { world with feed := world.feed.release place }, ?_, rfl⟩
    simp only [step, reading, heeded, unready, either_unready]
    rfl
  · rcases heedResting_of_dismissed dismissed with ⟨seen, heeded⟩
    have asleep : watcher.wake world wakeAt = none := if_neg (Nat.not_le.mpr early)
    refine ⟨{ watcher with seen }.finish .shutdown, world, ?_, rfl⟩
    simp only [step, resting, heeded, asleep, either_unready]

theorem step_of_asking {answer : Option Nat} (asking : watcher.phase = .asking answer)
    (preference : Preference) :
    ∃ after, watcher.step preference world = some (after, world) ∧
      (after.exit? = some .exhausted ∨
        (∃ source, after.phase = .reading source) ∨ ∃ wakeAt, after.phase = .resting wakeAt) := by
  refine ⟨watcher.answered world.clock answer, by simp only [step, asking], ?_⟩
  cases answer with
  | some place => exact .inr (.inl ⟨place, rfl⟩)
  | none =>
      simp only [answered, failed]
      split
      · exact .inl rfl
      · exact .inr (.inr ⟨_, rfl⟩)

theorem step_of_resting {wakeAt : Nat} (resting : watcher.phase = .resting wakeAt)
    (dismissed : watcher.Dismissed world.switch) (preference : Preference) :
    ∃ after, watcher.step preference world = some (after, world) ∧
      (after.exit? = some .shutdown ∨ after.phase = .opening) := by
  rcases heedResting_of_dismissed dismissed with ⟨seen, heeded⟩
  by_cases due : wakeAt ≤ world.clock
  · have woken : watcher.wake world wakeAt = some ({ watcher with phase := .opening }, world) :=
      if_pos due
    simp only [step, resting, heeded, woken]
    cases preference with
    | switch => exact ⟨_, rfl, .inl rfl⟩
    | other => exact ⟨_, rfl, .inr rfl⟩
  · have asleep : watcher.wake world wakeAt = none := if_neg due
    simp only [step, resting, heeded, asleep, either_unready]
    exact ⟨_, rfl, .inl rfl⟩

theorem heedReading_eq_none_iff {place : Nat} :
    watcher.heedReading world place = none ↔ world.switch.news watcher.seen = .none := by
  unfold heedReading
  cases world.switch.news watcher.seen with
  | set => cases world.switch.isOn <;> simp
  | _ => simp

theorem heedResting_eq_none_iff :
    watcher.heedResting world = none ↔ world.switch.news watcher.seen = .none := by
  unfold heedResting
  cases world.switch.news watcher.seen with
  | set => cases world.switch.isOn <;> simp
  | _ => simp

theorem wake_eq_none_iff {wakeAt : Nat} :
    watcher.wake world wakeAt = none ↔ world.clock < wakeAt := by
  unfold wake
  split <;> simp <;> omega

/-- A watcher that has nothing to do, but has not ended, waits and has been told of
everything. -/
theorem waits_of_idle (idle : watcher.Idle world) (unfinished : watcher.exit? = none) :
    watcher.Waits world ∧ world.switch.news watcher.seen = .none := by
  have still := idle .switch
  unfold step at still
  cases phase : watcher.phase with
  | opening | asking answer => simp [phase] at still
  | reading place =>
      simp only [phase] at still
      rcases either_eq_none_iff.mp still with ⟨unheeded, unready⟩
      exact ⟨.inl ⟨place, phase, receive_eq_none_iff.mp unready⟩,
        heedReading_eq_none_iff.mp unheeded⟩
  | resting wakeAt =>
      simp only [phase] at still
      rcases either_eq_none_iff.mp still with ⟨unheeded, asleep⟩
      exact ⟨.inr ⟨wakeAt, phase, wake_eq_none_iff.mp asleep⟩,
        heedResting_eq_none_iff.mp unheeded⟩
  | finished exit => simp [exit?, phase] at unfinished

theorem Waits.later (waits : watcher.Waits world) :
    watcher.exit? = none ∧ watcher.phase ≠ .opening := by
  rcases waits with ⟨place, reading, _⟩ | ⟨wakeAt, resting, _⟩
  · simp [exit?, reading]
  · simp [exit?, resting]

theorem dismissed_of_abandoned (told : world.switch.news watcher.seen = .none) :
    watcher.Dismissed world.switch.abandon := by
  have seen : watcher.seen = world.switch.settings := by
    by_contra different
    simp [ShutdownSwitch.news, different] at told
  exact .inl (by simp [ShutdownSwitch.news, ShutdownSwitch.abandon, seen])

theorem finished_of_idle (idle : watcher.Idle world) (alert : watcher.Alert world.switch)
    (told : world.switch.isOn = true ∨ world.switch.isHeld = false) : watcher.exit? ≠ none := by
  intro unfinished
  rcases waits_of_idle idle unfinished with ⟨waits, silent⟩
  rcases told with on | unheld
  · rcases alert.dismissed unfinished waits.later.2 on with abandoned | ⟨set, _⟩
    · simp [silent] at abandoned
    · simp [silent] at set
  · simp only [ShutdownSwitch.news, unheld, Bool.false_eq_true, if_false] at silent
    split at silent <;> cases silent

/-! ## What a watcher does that was told of everything -/

theorem Move.abandoned (move : Move watcher world change after next)
    (abandoned : world.switch.news watcher.seen = .abandoned) :
    after.exit? ≠ none ∨ next.switch.news after.seen = .abandoned := by
  rw [move.switch]
  cases move with
  | refrained | closed | dismissed => exact .inl (by simp [exit?, finish])
  | unopened | ended => exact .inr ((seen_failed _ _).symm ▸ abandoned)
  | reassured _ news | roused _ news => simp [news] at abandoned
  | _ => exact .inr abandoned

theorem heedReading_of_off {place : Nat} (news : world.switch.news watcher.seen = .set)
    (off : world.switch.isOn = false) :
    watcher.heedReading world place = some (watcher.told world.switch, world) := by
  simp only [heedReading, news, off, Bool.false_eq_true, if_false]

theorem heedResting_of_off (news : world.switch.news watcher.seen = .set)
    (off : world.switch.isOn = false) :
    watcher.heedResting world =
      some ({ watcher.told world.switch with phase := .opening }, world) := by
  simp only [heedResting, news, off, Bool.false_eq_true, if_false]

theorem news_told (watcher : Watcher) (abandoned : world.switch.isHeld = false) :
    world.switch.news (watcher.told world.switch).seen = .abandoned := by
  simp [ShutdownSwitch.news, told, abandoned]

/-- What is left to be told comes first. It does not keep a watcher from its subscription. -/
theorem Waits.told (waits : watcher.Waits world) (abandoned : world.switch.isHeld = false)
    (preference : Preference) :
    ∃ after next, watcher.step preference world = some (after, next) ∧
      (after.exit? = some .shutdown ∨ next = world ∧
        world.switch.news after.seen = .abandoned ∧
        (∀ place, watcher.phase = .reading place → after.Waits world)) := by
  rcases dismissed_or_off abandoned with dismissed | ⟨news, off⟩
  · rcases waits.exits dismissed preference with ⟨after, next, stepped, ended⟩
    exact ⟨after, next, stepped, .inl ended⟩
  · rcases waits with ⟨place, reading, nothing⟩ | ⟨wakeAt, resting, early⟩
    · have unready : watcher.receive world place = none := receive_eq_none_iff.mpr nothing
      refine ⟨watcher.told world.switch, world, ?_, .inr ⟨rfl, news_told watcher abandoned, ?_⟩⟩
      · simp only [step, reading, heedReading_of_off news off, unready, either_unready]
      · exact fun _ _ => .inl ⟨place, reading, nothing⟩
    · have asleep : watcher.wake world wakeAt = none := if_neg (Nat.not_le.mpr early)
      refine ⟨{ watcher.told world.switch with phase := .opening }, world, ?_,
        .inr ⟨rfl, news_told watcher abandoned, ?_⟩⟩
      · simp only [step, resting, heedResting_of_off news off, asleep, either_unready]
      · intro place reading
        simp [resting] at reading

/-! ## Steps in a row -/

theorem switch_steps (preference : Preference) (bound : Nat) (watcher : Watcher)
    (world : FeedWorld) : (watcher.steps preference bound world).2.switch = world.switch := by
  induction bound generalizing watcher world with
  | zero => rfl
  | succ bound induction =>
      unfold steps
      cases stepped : watcher.step preference world with
      | none => rfl
      | some pair => exact (induction pair.1 pair.2).trans (move_of_step stepped).switch

theorem Alert.steps (alert : watcher.Alert world.switch) (preference : Preference)
    (bound : Nat) : (watcher.steps preference bound world).1.Alert world.switch := by
  induction bound generalizing watcher world with
  | zero => exact alert
  | succ bound induction =>
      unfold Watcher.steps
      cases stepped : watcher.step preference world with
      | none => exact alert
      | some pair =>
          have move := move_of_step stepped
          exact move.switch ▸ induction (move.alert alert)

theorem finished_of_settle (alert : watcher.Alert world.switch)
    (told : world.switch.isOn = true ∨ world.switch.isHeld = false) :
    (watcher.settle world).1.exit? ≠ none := by
  have same : (watcher.settle world).2.switch = world.switch :=
    switch_steps .switch _ watcher world
  refine finished_of_idle (watcher.settle_idle world) ?_ (by rwa [same])
  rw [same]
  exact alert.steps .switch _

end Watcher

end SharedEditing
