import SharedEditing.Proofs.Feed.Watch

/-! # A watcher settles

Left alone, a watcher comes to where it can do nothing but wait: every item takes one
step, and what is left of the restarts bounds the rest. Nothing is queued for it then. -/

namespace SharedEditing

theorem MemoryFeed.queued_take {feed : MemoryFeed} {place : Nat} {item : FeedItem}
    (front : feed.peek place = .item item) :
    feed.queued place = (feed.take place).queued place + 1 := by
  rcases queue_of_peek front with ⟨subscription, rest, found, queue⟩
  have after := feed.getElem?_take place place
  rw [found, Option.map_some, if_pos rfl] at after
  simp [queued, found, after, queue]

theorem MemoryFeed.queued_watch {feed : MemoryFeed} {collection : Collection} :
    (feed.watch collection).2.toOption.elim 0 (feed.watch collection).1.queued = 0 := by
  cases answer : (feed.watch collection).2.toOption with
  | none => rfl
  | some place =>
      rcases answer_eq_some_iff.mp answer with ⟨available, rfl⟩
      simp [queued, subscriptions_watch, available]

def ShutdownSwitch.untold (switch : ShutdownSwitch) (seen : Nat) : Nat :=
  if seen = switch.settings then 0 else 1

namespace ShutdownSwitch

variable {switch : ShutdownSwitch} {seen : Nat}

theorem untold_le : switch.untold seen ≤ 1 := by
  unfold untold
  split <;> omega

theorem untold_of_set (news : switch.news seen = .set) : switch.untold seen = 1 := by
  unfold ShutdownSwitch.news at news
  unfold untold
  split at news
  · rename_i different
    exact if_neg different
  · split at news <;> cases news

theorem untold_of_told : switch.untold switch.settings = 0 := if_pos rfl

end ShutdownSwitch

/-- How many failures are still made up for. While items are queued it is all of them, for
any of the items may be a change. -/
def RestartPolicy.spare (policy : RestartPolicy) (failures queued : Nat) : Nat :=
  if queued = 0 then policy.maxRestarts - failures else policy.maxRestarts

namespace RestartPolicy

variable {policy : RestartPolicy} {failures queued : Nat}

theorem spare_le : policy.spare failures queued ≤ policy.maxRestarts := by
  unfold spare
  split <;> omega

theorem spare_zero : policy.spare failures 0 = policy.maxRestarts - failures := if_pos rfl

theorem spare_succ : policy.spare failures (queued + 1) = policy.maxRestarts := rfl

theorem spare_zero_le : policy.spare failures 0 ≤ policy.spare failures queued := by
  unfold spare
  rw [if_pos rfl]
  split <;> omega

end RestartPolicy

namespace Watcher

def Idle (watcher : Watcher) (world : FeedWorld) : Prop :=
  ∀ preference, watcher.step preference world = none

/-! ## How many steps are left -/

/-- How many steps are left at most. Whoever rests has to wake, to ask and to be answered
before it reads, and may then find the end. -/
def effort (watcher : Watcher) (world : FeedWorld) : Nat :=
  let untold := world.switch.untold watcher.seen
  let spare := watcher.policy.spare watcher.failures
  match watcher.phase with
  | .opening => untold + 4 * spare 0 + 4
  | .asking answer =>
      let queued := answer.elim 0 world.feed.queued
      untold + queued + 4 * spare queued + 3
  | .reading place =>
      let queued := world.feed.queued place
      untold + queued + 4 * spare queued + 2
  | .resting _ => untold + 4 * spare 0 + 5
  | .finished _ => 0

open ShutdownSwitch RestartPolicy

theorem effort_le_stepBound (watcher : Watcher) (world : FeedWorld) :
    watcher.effort world ≤ watcher.stepBound world := by
  have untold : world.switch.untold watcher.seen ≤ 1 := untold_le
  have spare (queued : Nat) : watcher.policy.spare watcher.failures queued ≤
    watcher.policy.maxRestarts := spare_le
  unfold effort stepBound
  cases watcher.phase with
  | asking answer =>
      have bound := spare (answer.elim 0 world.feed.queued)
      simp only [WatcherPhase.subscription?]
      omega
  | reading place =>
      have bound := spare (world.feed.queued place)
      simp only [WatcherPhase.subscription?, Option.elim_some]
      omega
  | finished exit => exact Nat.zero_le _
  | _ =>
      have bound := spare 0
      simp only
      omega

theorem effort_failed (watcher : Watcher) (now : Nat) (world : FeedWorld) :
    (watcher.failed now).effort world <
      world.switch.untold watcher.seen + 4 * watcher.policy.spare watcher.failures 0 + 2 := by
  unfold failed
  split
  · simp [effort, finish]
  · rename_i left
    simp only [effort, spare_zero]
    omega

variable {watcher after : Watcher} {world next : FeedWorld} {change : Option Change}

theorem Move.effort_lt (move : Move watcher world change after next) :
    after.effort next < watcher.effort world := by
  cases move with
  | refrained opening on => simp [effort, finish, opening]
  | asked opening off =>
      simp only [effort, opening, MemoryFeed.queued_watch]
      omega
  | opened asking =>
      simp only [effort, asking, Option.elim_some]
      omega
  | unopened asking =>
      apply Nat.lt_of_lt_of_le (watcher.effort_failed world.clock _)
      simp only [effort, asking, Option.elim_none]
      omega
  | @handed place change reading front =>
      -- The failures are forgiven. That was counted in while the change was queued.
      have fewer := MemoryFeed.queued_take front
      have bound : watcher.policy.spare 0 ((world.feed.take place).queued place) ≤
        watcher.policy.maxRestarts := spare_le
      simp only [effort, reading, fewer, spare_succ]
      omega
  | @skipped place error reading front =>
      have fewer := MemoryFeed.queued_take front
      have bound : watcher.policy.spare watcher.failures ((world.feed.take place).queued place) ≤
        watcher.policy.maxRestarts := spare_le
      simp only [effort, reading, fewer, spare_succ]
      omega
  | @ended place reading front =>
      have bound : watcher.policy.spare watcher.failures 0 ≤
        watcher.policy.spare watcher.failures (world.feed.queued place) := spare_zero_le
      apply Nat.lt_of_lt_of_le (watcher.effort_failed world.clock _)
      simp only [effort, reading]
      omega
  | closed seen reading dismissed => simp [effort, finish, reading]
  | reassured reading news off =>
      simp only [effort, told, reading, untold_of_set news, untold_of_told]
      omega
  | dismissed seen resting dismissed => simp [effort, finish, resting]
  | roused resting news off =>
      simp only [effort, told, resting, untold_of_set news, untold_of_told]
      omega
  | woke resting due =>
      simp only [effort, resting]
      omega

/-! ## The end of the steps -/

theorem either_eq_none_iff {preference : Preference}
    {switch other : Option (Watcher × FeedWorld)} :
    either preference switch other = none ↔ switch = none ∧ other = none := by
  cases preference with
  | switch => exact Option.or_eq_none_iff
  | other => exact Option.or_eq_none_iff.trans and_comm

theorem either_unready (preference : Preference) (switch : Option (Watcher × FeedWorld)) :
    either preference switch none = switch := by
  cases preference with
  | switch => exact Option.or_none
  | other => rfl

theorem step_eq_none_iff (preference : Preference) :
    watcher.step preference world = none ↔ watcher.Idle world := by
  refine ⟨fun still preferred => ?_, fun idle => idle preference⟩
  unfold step at still ⊢
  cases phase : watcher.phase with
  | opening | asking answer => simp [phase] at still
  | reading place =>
      simp only [phase] at still
      exact either_eq_none_iff.mpr (either_eq_none_iff.mp still)
  | resting wakeAt =>
      simp only [phase] at still
      exact either_eq_none_iff.mpr (either_eq_none_iff.mp still)
  | finished exit => rfl

theorem idle_of_effort (spent : watcher.effort world = 0) : watcher.Idle world := by
  intro preference
  unfold effort at spent
  unfold step
  cases phase : watcher.phase with
  | finished exit => rfl
  | _ =>
      simp only [phase] at spent
      omega

theorem steps_idle (preference : Preference) {bound : Nat}
    (enough : watcher.effort world ≤ bound) :
    (watcher.steps preference bound world).1.Idle (watcher.steps preference bound world).2 := by
  induction bound generalizing watcher world with
  | zero => exact idle_of_effort (Nat.le_zero.mp enough)
  | succ bound induction =>
      unfold steps
      cases stepped : watcher.step preference world with
      | none => exact (step_eq_none_iff preference).mp stepped
      | some pair =>
          have less := (move_of_step stepped).effort_lt
          exact induction (by omega)

theorem settle_idle (watcher : Watcher) (world : FeedWorld) :
    (watcher.settle world).1.Idle (watcher.settle world).2 :=
  steps_idle .switch (watcher.effort_le_stepBound world)

theorem waiting_of_settled (idle : watcher.Idle world) : watcher.waiting world.feed = [] := by
  have still := idle .other
  unfold step at still
  cases phase : watcher.phase with
  | reading place =>
      simp only [phase] at still
      have unreceived := (either_eq_none_iff.mp still).2
      unfold receive at unreceived
      cases front : world.feed.peek place with
      | nothing =>
          rcases MemoryFeed.queue_of_peek_nothing front with ⟨subscription, found, queue⟩
          rw [waiting_of_found (subscription_of_reading phase) found, queue]
          rfl
      | ended => simp [front] at unreceived
      | item item => cases item <;> simp [front] at unreceived
  | asking answer => simp [phase] at still
  | _ => exact waiting_of_none (by rw [phase]; rfl)

end Watcher

/-! ## A run that is left alone -/

namespace Watch

variable {watch : Watch}

theorem run_steps_of_idle (idle : watch.watcher.Idle watch.world)
    (preferences : List Preference) : watch.run (preferences.map .step) = watch := by
  induction preferences with
  | nil => rfl
  | cons preference rest induction =>
      have still : watch.step preference = watch := by
        unfold step
        rw [idle preference]
      change (watch.step preference).run (rest.map .step) = watch
      rw [still]
      exact induction

/-- After so many steps of its own, in whatever order, the watcher has nothing to do. -/
theorem idle_of_steps {preferences : List Preference}
    (enough : watch.watcher.effort watch.world ≤ preferences.length) :
    let later := watch.run (preferences.map .step)
    later.watcher.Idle later.world := by
  induction preferences generalizing watch with
  | nil => exact Watcher.idle_of_effort (Nat.le_zero.mp enough)
  | cons preference rest induction =>
      rcases watch.step_cases preference with ⟨still, _⟩ | ⟨_, _, _, move, _, after⟩
      · have idle := (Watcher.step_eq_none_iff preference).mp still
        rw [run_steps_of_idle idle]
        exact idle
      · rw [List.length_cons] at enough
        have spent : (watch.step preference).watcher.effort (watch.step preference).world ≤
            rest.length := by
          rw [after]
          exact Nat.le_of_lt_succ (Nat.lt_of_lt_of_le move.effort_lt enough)
        exact induction spent

theorem put_steps (watch : Watch) (preferences : List Preference) :
    (watch.run (preferences.map .step)).put = watch.put := by
  induction preferences generalizing watch with
  | nil => rfl
  | cons preference rest induction => exact (induction _).trans (watch.put_step preference)

end Watch

end SharedEditing
