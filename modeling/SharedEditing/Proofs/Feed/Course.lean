import SharedEditing.Proofs.Feed.Watch

/-! # The course of a watcher

What a watcher meets with at its feed, in order: subscriptions that it asks for, and what
it finds in them. Its failures follow from that alone, and so does how often the feed was
asked. -/

namespace SharedEditing

inductive Incident where
  | asked
  | unopened
  | opened
  | received
  | skipped
  | ended
  deriving DecidableEq, Repr

namespace Incident

def isAttempt : Incident → Bool
  | asked => true
  | _ => false

def isFailure : Incident → Bool
  | unopened | ended => true
  | _ => false

end Incident

def answerIncident : Option Nat → Incident
  | some _ => .opened
  | none => .unopened

def Received.incident? : Received → Option Incident
  | .item (.ok _) => some .received
  | .item (.error _) => some .skipped
  | .nothing => none
  | .ended => some .ended

namespace Watcher

def incident? (preference : Preference) (watcher : Watcher) (world : FeedWorld) :
    Option Incident :=
  match watcher.phase with
  | .opening => if world.switch.isOn then none else some .asked
  | .asking answer => some (answerIncident answer)
  | .reading place =>
      if preference = .switch ∧ (watcher.heedReading world place).isSome then none
      else (world.feed.peek place).incident?
  | _ => none

inductive Met (watcher : Watcher) (now : Nat) : Option Incident → Watcher → Prop where
  | asked (answer : Option Nat) (opening : watcher.phase = .opening) :
      Met watcher now (some .asked) { watcher with phase := .asking answer }
  | unopened (asking : watcher.phase = .asking none) :
      Met watcher now (some .unopened) (watcher.failed now)
  | opened {place : Nat} (asking : watcher.phase = .asking (some place)) :
      Met watcher now (some .opened) { watcher with phase := .reading place }
  | received {place : Nat} (reading : watcher.phase = .reading place) :
      Met watcher now (some .received) { watcher with failures := 0 }
  | skipped {place : Nat} (reading : watcher.phase = .reading place) :
      Met watcher now (some .skipped) watcher
  | ended {place : Nat} (reading : watcher.phase = .reading place) :
      Met watcher now (some .ended) (watcher.failed now)
  | dismissed (seen : Nat) (unfinished : watcher.exit? = none) :
      Met watcher now none ({ watcher with seen }.finish .shutdown)
  | reassured {place : Nat} (seen : Nat) (reading : watcher.phase = .reading place) :
      Met watcher now none { watcher with seen }
  | resumed {wakeAt : Nat} (seen : Nat) (resting : watcher.phase = .resting wakeAt) :
      Met watcher now none { watcher with seen, phase := .opening }

variable {watcher after : Watcher} {world next : FeedWorld} {preference : Preference}

theorem isAttempt_incident?_iff (preference : Preference) (watcher : Watcher)
    (world : FeedWorld) :
    (watcher.incident? preference world).any Incident.isAttempt = true ↔
      watcher.phase = .opening ∧ world.switch.isOn = false := by
  unfold incident?
  cases watcher.phase with
  | opening =>
      cases world.switch.isOn with
      | true => simp
      | false => simp [Incident.isAttempt]
  | asking answer => cases answer <;> simp [answerIncident, Incident.isAttempt]
  | reading place =>
      simp only
      split
      · simp
      · cases world.feed.peek place with
        | item item => cases item <;> simp [Received.incident?, Incident.isAttempt]
        | _ => simp [Received.incident?, Incident.isAttempt]
  | _ => simp

theorem Move.met_of_opening {change : Option Change} (opening : watcher.phase = .opening)
    (move : Move watcher world change after next) :
    Met watcher world.clock (watcher.incident? preference world) after := by
  unfold incident?
  rw [opening]
  cases move with
  | refrained _ on =>
      simp only [on, if_true]
      exact .dismissed watcher.seen (by simp [exit?, opening])
  | asked _ off =>
      simp only [off, Bool.false_eq_true, if_false]
      exact .asked _ opening
  | opened asking | unopened asking => simp [opening] at asking
  | handed reading | skipped reading | ended reading | closed _ reading | reassured reading =>
      simp [opening] at reading
  | dismissed _ resting | roused resting | woke resting => simp [opening] at resting

theorem met_of_asking {answer : Option Nat} (now : Nat)
    (asking : watcher.phase = .asking answer) :
    Met watcher now (some (answerIncident answer)) (watcher.answered now answer) := by
  cases answer with
  | some place => exact .opened asking
  | none => exact .unopened asking

theorem Move.met_of_resting {change : Option Change} {wakeAt : Nat}
    (resting : watcher.phase = .resting wakeAt) (move : Move watcher world change after next) :
    Met watcher world.clock none after := by
  cases move with
  | dismissed seen _ _ => exact .dismissed seen (by simp [exit?, resting])
  | roused _ _ _ => exact .resumed world.switch.settings resting
  | woke _ _ => exact .resumed watcher.seen resting
  | refrained opening | asked opening => simp [resting] at opening
  | opened asking | unopened asking => simp [resting] at asking
  | handed reading | skipped reading | ended reading | closed _ reading | reassured reading =>
      simp [resting] at reading

theorem met_of_heedReading {place : Nat} (reading : watcher.phase = .reading place)
    (heeded : watcher.heedReading world place = some (after, next)) :
    Met watcher world.clock none after := by
  rcases heedReading_cases heeded with ⟨_, seen, same⟩ | ⟨_, _, same⟩
  · cases same
    exact .dismissed seen (by simp [exit?, reading])
  · cases same
    exact .reassured world.switch.settings reading

theorem met_of_receive {place : Nat} (reading : watcher.phase = .reading place)
    (received : watcher.receive world place = some (after, next)) :
    Met watcher world.clock (world.feed.peek place).incident? after := by
  unfold receive at received
  cases front : world.feed.peek place with
  | nothing => simp [front] at received
  | ended =>
      simp only [front, Option.some.injEq] at received
      cases received
      exact .ended reading
  | item item =>
      cases item with
      | error error =>
          simp only [front, Option.some.injEq] at received
          cases received
          exact .skipped reading
      | ok change =>
          simp only [front, Option.some.injEq] at received
          cases received
          exact .received reading

theorem met_of_step (stepped : watcher.step preference world = some (after, next)) :
    Met watcher world.clock (watcher.incident? preference world) after := by
  have move := move_of_step stepped
  cases phase : watcher.phase with
  | opening => exact move.met_of_opening phase
  | asking answer =>
      unfold step at stepped
      unfold incident?
      simp only [phase, Option.some.injEq] at stepped ⊢
      cases stepped
      exact met_of_asking world.clock phase
  | reading place =>
      unfold incident?
      simp only [phase]
      rcases served_of_reading phase stepped with ⟨heeded, first⟩ | ⟨received, unheeded⟩
      · have silent : (if preference = .switch ∧ (watcher.heedReading world place).isSome
            then none else (world.feed.peek place).incident?) = none := by
          rcases first with rfl | nothing
          · simp [heeded]
          · simp [Received.incident?, nothing]
        rw [silent]
        exact met_of_heedReading phase heeded
      · rw [if_neg unheeded]
        exact met_of_receive phase received
  | resting wakeAt =>
      unfold incident?
      simp only [phase]
      exact move.met_of_resting phase
  | finished exit =>
      have unfinished := move.unfinished
      simp [exit?, phase] at unfinished

end Watcher

/-! ## Asking for subscriptions -/

namespace MemoryFeed

def calls (feed : MemoryFeed) (collection : Collection) : Nat :=
  feed.watchCalls.getD collection 0

theorem calls_watch (feed : MemoryFeed) (collection other : Collection) :
    (feed.watch collection).1.calls other =
      feed.calls other + if collection = other then 1 else 0 := by
  have called : (feed.watch collection).1.watchCalls =
      feed.watchCalls.set collection (feed.calls collection + 1) := by
    unfold watch
    split <;> rfl
  unfold calls
  rw [called, Table.getD, Table.get?_set]
  split
  · rename_i same
    subst same
    rfl
  · rfl

end MemoryFeed

theorem Watcher.Move.calls {watcher after : Watcher} {world next : FeedWorld}
    {change : Option Change} (move : Move watcher world change after next)
    (collection : Collection) :
    next.feed.calls collection = world.feed.calls collection +
      if (watcher.phase = .opening ∧ world.switch.isOn = false) ∧ watcher.collection = collection
      then 1 else 0 := by
  cases move with
  | refrained opening on => simp [on]
  | asked opening off =>
      simp only [opening, off, true_and]
      exact world.feed.calls_watch watcher.collection collection
  | opened asking | unopened asking => simp [asking]
  | handed reading | skipped reading | ended reading | closed _ reading | reassured reading =>
      simp only [reading, reduceCtorEq, false_and, if_false]
      rfl
  | dismissed _ resting | roused resting | woke resting => simp [resting]

def attempts (course : List Incident) : Nat := course.countP Incident.isAttempt

theorem attempts_append (course later : List Incident) :
    attempts (course ++ later) = attempts course + attempts later :=
  List.countP_append

theorem attempts_toList (incident : Option Incident) :
    attempts incident.toList = if incident.any Incident.isAttempt = true then 1 else 0 := by
  cases incident with
  | none => rfl
  | some incident => cases incident <;> rfl

namespace Watch

variable (watch : Watch)

def incident? : WatchEvent → Option Incident
  | .step preference =>
      (watch.watcher.step preference watch.world).bind fun _ =>
        watch.watcher.incident? preference watch.world
  | _ => none

def course (watch : Watch) : List WatchEvent → List Incident
  | [] => []
  | event :: rest => (watch.incident? event).toList ++ (watch.perform event).course rest

theorem course_append (events later : List WatchEvent) :
    watch.course (events ++ later) = watch.course events ++ (watch.run events).course later := by
  induction events generalizing watch with
  | nil => rfl
  | cons event rest induction =>
      rw [List.cons_append, course, course, induction, List.append_assoc]
      rfl

theorem course_concat (events : List WatchEvent) (event : WatchEvent) :
    watch.course (events ++ [event]) =
      watch.course events ++ ((watch.run events).incident? event).toList := by
  rw [course_append, course, course, List.append_nil]

/-- A course breaks off where the run breaks off. -/
theorem exists_course_eq {stretch : List Incident} {events : List WatchEvent}
    (begun : stretch <+: watch.course events) :
    ∃ earlier, earlier <+: events ∧ watch.course earlier = stretch := by
  induction events using List.reverseRecOn with
  | nil => exact ⟨[], List.prefix_rfl, (List.prefix_nil.mp begun).symm⟩
  | append_singleton events event induction =>
      rw [course_concat] at begun
      cases met : (watch.run events).incident? event with
      | none =>
          rw [met, Option.toList_none, List.append_nil] at begun
          rcases induction begun with ⟨earlier, before, same⟩
          exact ⟨earlier, before.trans (List.prefix_append _ _), same⟩
      | some incident =>
          rw [met, Option.toList_some, List.prefix_concat_iff] at begun
          rcases begun with whole | begun
          · refine ⟨events ++ [event], List.prefix_rfl, ?_⟩
            rw [course_concat, met, Option.toList_some, whole]
          · rcases induction begun with ⟨earlier, before, same⟩
            exact ⟨earlier, before.trans (List.prefix_append _ _), same⟩

theorem met_of_perform (event : WatchEvent) :
    ((watch.perform event).watcher = watch.watcher ∧ watch.incident? event = none) ∨
      Watcher.Met watch.watcher watch.world.clock (watch.incident? event)
        (watch.perform event).watcher := by
  cases event with
  | around event => exact .inl ⟨rfl, rfl⟩
  | elsewhere event =>
      refine .inl ⟨?_, rfl⟩
      simp only [perform]
      split <;> rfl
  | step preference =>
      simp only [perform, step, incident?]
      cases stepped : watch.watcher.step preference watch.world with
      | none => exact .inl ⟨rfl, rfl⟩
      | some pair => exact .inr (Watcher.met_of_step stepped)

theorem calls_perform (event : WatchEvent)
    (own : event ≠ .elsewhere (.opens watch.watcher.collection)) :
    (watch.perform event).world.feed.calls watch.watcher.collection =
      watch.world.feed.calls watch.watcher.collection +
        attempts (watch.incident? event).toList := by
  cases event with
  | around event => cases event <;> rfl
  | elsewhere event =>
      simp only [perform]
      split
      · rfl
      · cases event with
        | opens collection =>
            have foreign : collection ≠ watch.watcher.collection := by
              rintro rfl
              exact own rfl
            change (watch.world.feed.watch collection).1.calls _ = _
            rw [MemoryFeed.calls_watch, if_neg foreign]
            rfl
        | _ => rfl
  | step preference =>
      simp only [perform, step, incident?]
      cases stepped : watch.watcher.step preference watch.world with
      | none => rfl
      | some pair =>
          have asked := (Watcher.move_of_step stepped).calls watch.watcher.collection
          rw [Option.bind_some, attempts_toList]
          simpa only [Watcher.isAttempt_incident?_iff, and_true] using asked

/-- The feed is asked once for every attempt, if nobody else asks. -/
theorem calls_run {events : List WatchEvent}
    (own : ∀ event ∈ events, event ≠ .elsewhere (.opens watch.watcher.collection)) :
    (watch.run events).world.feed.calls watch.watcher.collection =
      watch.world.feed.calls watch.watcher.collection + attempts (watch.course events) := by
  induction events using List.reverseRecOn with
  | nil => rfl
  | append_singleton events event induction =>
      have before := induction fun earlier member => own earlier (List.mem_append_left _ member)
      have last := own event (List.mem_append_right _ (.head []))
      have same := watch.collection_run events
      have asked := (watch.run events).calls_perform event (by rwa [same])
      rw [same] at asked
      rw [run_concat, asked, before, course_concat, attempts_append, Nat.add_assoc]

end Watch

end SharedEditing
