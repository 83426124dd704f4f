import SharedEditing.Proofs.Feed.Restarts

/-! # Rests between failures and reopenings

Whoever asks for a subscription again has failed before, and has rested since. A rest is as
long as the policy says, with one exception: a setting of the switch that leaves it off ends
the rest at once. -/

namespace SharedEditing

/-- From a failure on, a rest has lasted as long as the policy says, or as long as anybody
can wait. -/
def RestartPolicy.Rested (policy : RestartPolicy) (failedAt now : Nat) : Prop :=
  failedAt + policy.backoff ≤ now ∨ failedAt + longestWait ≤ now ∨ lastWakeTime ≤ now

theorem RestartPolicy.Rested.mono {policy : RestartPolicy} {failedAt now later : Nat}
    (rested : policy.Rested failedAt now) (elapsed : now ≤ later) :
    policy.Rested failedAt later := by
  unfold Rested at *
  omega

theorem RestartPolicy.rested_iff {policy : RestartPolicy} {failedAt now : Nat} :
    policy.Rested failedAt now ↔ wakeTime failedAt policy.backoff ≤ now := by
  unfold Rested wakeTime
  omega

namespace Watcher

variable {watcher : Watcher} {now wakeAt : Nat}

theorem wakeAt_of_failed (resting : (watcher.failed now).phase = .resting wakeAt) :
    wakeAt = wakeTime now watcher.policy.backoff := by
  unfold failed at resting
  split at resting
  · cases resting
  · exact (WatcherPhase.resting.inj resting).symm

theorem not_opening_of_failed (watcher : Watcher) (now : Nat) :
    (watcher.failed now).phase ≠ .opening := by
  unfold failed
  split <;> simp [finish]

end Watcher

namespace Watch

variable {watch started : Watch} {events earlier resting : List WatchEvent}
  {event failing : WatchEvent}

/-! ## The clock and the switch -/

theorem run_append (watch : Watch) (events later : List WatchEvent) :
    watch.run (events ++ later) = (watch.run events).run later :=
  List.foldl_append

theorem clock_le_perform (watch : Watch) (event : WatchEvent) :
    watch.world.clock ≤ (watch.perform event).world.clock := by
  cases event with
  | around event =>
      cases event with
      | tick milliseconds => exact Nat.le_add_right _ milliseconds
      | _ => exact Nat.le_refl _
  | elsewhere event =>
      simp only [perform]
      split
      · exact Nat.le_refl _
      · cases event <;> exact Nat.le_refl _
  | step preference =>
      rcases watch.step_cases preference with ⟨_, still⟩ | ⟨_, _, _, move, _, after⟩
      · simp only [perform, still, Nat.le_refl]
      · simp only [perform, after]
        cases move <;> exact Nat.le_refl _

/-- A watcher that has not ended knows of every setting of the switch that left it off. -/
def Informed (watch : Watch) : Prop :=
  watch.watcher.exit? = none → watch.world.switch.isOn = false →
    watch.watcher.seen = watch.world.switch.settings

theorem Informed.perform (informed : watch.Informed)
    (unset : event ≠ .around (.turnSwitch false)) : (watch.perform event).Informed := by
  cases event with
  | around event =>
      cases event with
      | turnSwitch isOn =>
          intro unfinished off
          cases isOn with
          | false => exact absurd rfl unset
          | true =>
              simp only [Watch.perform, FeedWorld.apply, ShutdownSwitch.turn] at off ⊢
              split at off
              · cases off
              · rename_i unheld
                rw [if_neg unheld]
                exact informed unfinished off
      | _ => exact informed
  | elsewhere event =>
      simp only [Watch.perform]
      split
      · exact informed
      · cases event <;> exact informed
  | step preference =>
      rcases watch.step_cases preference with ⟨_, still⟩ | ⟨_, watcher, world, move, _, after⟩
      · simp only [Watch.perform, still]
        exact informed
      · have before := informed move.unfinished
        simp only [Watch.perform, after, Informed]
        rw [move.switch]
        intro unfinished off
        cases move with
        | unopened | ended => exact (watch.watcher.seen_failed _).trans (before off)
        | closed | dismissed | refrained => simp [Watcher.exit?, Watcher.finish] at unfinished
        | reassured | roused => rfl
        | _ => exact before off

theorem Informed.run (informed : watch.Informed)
    (unset : .around (.turnSwitch false) ∉ events) : (watch.run events).Informed := by
  induction events using List.reverseRecOn with
  | nil => exact informed
  | append_singleton events event induction =>
      rw [run_concat]
      have before := induction fun earlier => unset (List.mem_append_left [event] earlier)
      apply before.perform
      rintro rfl
      exact unset (by simp)

/-! ## Rests -/

theorem resumes {wakeAt : Nat} (resting : watch.watcher.phase = .resting wakeAt)
    (opening : (watch.perform event).watcher.phase = .opening) :
    ∃ preference, event = .step preference ∧ (wakeAt ≤ watch.world.clock ∨
      watch.world.switch.news watch.watcher.seen = .set ∧ watch.world.switch.isOn = false) := by
  cases event with
  | around event => simp [perform, resting] at opening
  | elsewhere event =>
      simp only [perform] at opening
      split at opening <;> simp [resting] at opening
  | step preference =>
      refine ⟨preference, rfl, ?_⟩
      rcases watch.step_cases preference with ⟨_, still⟩ | ⟨_, watcher, world, move, _, after⟩
      · simp [perform, still, resting] at opening
      · simp only [perform, after] at opening
        cases move with
        | roused _ news off => exact .inr ⟨news, off⟩
        | woke own due =>
            rw [resting, WatcherPhase.resting.injEq] at own
            exact .inl (own ▸ due)
        | dismissed => cases opening
        | refrained first | asked first | opened first | unopened first => simp [resting] at first
        | handed reading | skipped reading | ended reading | closed _ reading
        | reassured reading => simp [resting] at reading

/-- Some rest among the events was ended by news of the switch, which was off. -/
def Roused (watch : Watch) (events : List WatchEvent) : Prop :=
  ∃ before preference after wakeAt, events = before ++ .step preference :: after ∧
    (watch.run before).watcher.phase = .resting wakeAt ∧
    (watch.run before).world.switch.news (watch.run before).watcher.seen = .set ∧
    (watch.run before).world.switch.isOn = false

theorem Roused.append (roused : watch.Roused events) (later : List WatchEvent) :
    watch.Roused (events ++ later) := by
  rcases roused with ⟨before, preference, after, wakeAt, rfl, resting, news, off⟩
  exact ⟨before, preference, after ++ later, wakeAt, by simp, resting, news, off⟩

theorem Informed.not_roused (informed : watch.Informed)
    (unset : .around (.turnSwitch false) ∉ events) : ¬ watch.Roused events := by
  rintro ⟨before, preference, after, wakeAt, rfl, resting, news, off⟩
  have told : (watch.run before).Informed :=
    informed.run fun member => unset (List.mem_append_left _ member)
  have seen := told (by simp [Watcher.exit?, resting]) off
  simp only [ShutdownSwitch.news, seen, ne_eq, not_true_eq_false, if_false] at news
  split at news <;> cases news

/-- The last that was met with is a failure, at the event between those before and those
since. -/
structure RestsSince (started : Watch) (events earlier : List WatchEvent) (failing : WatchEvent)
    (resting : List WatchEvent) : Prop where
  split : events = earlier ++ failing :: resting
  failed : ((started.run earlier).incident? failing).any Incident.isFailure = true
  silent : (started.run (earlier ++ [failing])).course resting = []

theorem RestsSince.of_failure
    (failed : ((started.run events).incident? event).any Incident.isFailure = true) :
    started.RestsSince (events ++ [event]) events event [] :=
  ⟨rfl, failed, rfl⟩

namespace RestsSince

variable (rests : started.RestsSince events earlier failing resting)

include rests

theorem run_eq : started.run events = (started.run (earlier ++ [failing])).run resting := by
  rw [rests.split, ← run_append, List.append_assoc, List.singleton_append]

theorem concat (silent : (started.run events).incident? event = none) :
    started.RestsSince (events ++ [event]) earlier failing (resting ++ [event]) where
  split := by rw [rests.split, List.append_assoc, List.cons_append]
  failed := rests.failed
  silent := by
    rw [course_concat, ← rests.run_eq, rests.silent, silent]
    rfl

/-- A setting that the watcher did not know of at its failure, or one since that left the
switch off, is what it takes to rouse it. -/
theorem not_roused
    (known : (started.run earlier).watcher.seen = (started.run earlier).world.switch.settings)
    (unset : .around (.turnSwitch false) ∉ resting) :
    ¬ (started.run (earlier ++ [failing])).Roused resting := by
  have informed : (started.run earlier).Informed := fun _ _ => known
  have failed := rests.failed
  rw [run_concat]
  refine Informed.not_roused (informed.perform ?_) unset
  rintro rfl
  simp [incident?] at failed

end RestsSince

/-- A watcher at rest wakes when its policy says so. One that is about to open has not opened
before, or has rested enough, or was roused. -/
structure Pausing (started : Watch) (events : List WatchEvent) : Prop where
  resting : ∀ wakeAt, (started.run events).watcher.phase = .resting wakeAt →
    ∃ earlier failing resting, started.RestsSince events earlier failing resting ∧
      wakeAt = wakeTime (started.run earlier).world.clock started.watcher.policy.backoff
  opening : (started.run events).watcher.phase = .opening → 0 < attempts (started.course events) →
    ∃ earlier failing resting, started.RestsSince events earlier failing resting ∧
      (started.watcher.policy.Rested (started.run earlier).world.clock
          (started.run events).world.clock ∨
        (started.run (earlier ++ [failing])).Roused resting)

namespace Pausing

theorem of_still (pausing : started.Pausing events)
    (still : ((started.run events).perform event).watcher = (started.run events).watcher)
    (silent : (started.run events).incident? event = none) :
    started.Pausing (events ++ [event]) where
  resting wakeAt resting := by
    rw [run_concat, still] at resting
    rcases pausing.resting wakeAt resting with ⟨earlier, failing, since, rests, due⟩
    exact ⟨earlier, failing, _, rests.concat silent, due⟩
  opening opening asked := by
    rw [run_concat, still] at opening
    rw [course_concat, silent, Option.toList_none, List.append_nil] at asked
    rcases pausing.opening opening asked with ⟨earlier, failing, since, rests, rested | roused⟩
    · refine ⟨earlier, failing, _, rests.concat silent, .inl ?_⟩
      rw [run_concat]
      exact rested.mono (clock_le_perform _ event)
    · exact ⟨earlier, failing, _, rests.concat silent, .inr (roused.append [event])⟩

theorem of_failed (policy : (started.run events).watcher.policy = started.watcher.policy)
    (failed : ((started.run events).incident? event).any Incident.isFailure = true)
    (after : ((started.run events).perform event).watcher =
      (started.run events).watcher.failed (started.run events).world.clock) :
    started.Pausing (events ++ [event]) where
  resting wakeAt resting := by
    rw [run_concat, after] at resting
    have due := Watcher.wakeAt_of_failed resting
    rw [policy] at due
    exact ⟨events, event, [], .of_failure failed, due⟩
  opening opening := by
    rw [run_concat, after] at opening
    exact absurd opening (Watcher.not_opening_of_failed _ _)

theorem of_awake
    (awake : ∀ wakeAt, ((started.run events).perform event).watcher.phase ≠ .resting wakeAt)
    (closed : ((started.run events).perform event).watcher.phase ≠ .opening) :
    started.Pausing (events ++ [event]) where
  resting wakeAt resting := by
    rw [run_concat] at resting
    exact absurd resting (awake wakeAt)
  opening opening := by
    rw [run_concat] at opening
    exact absurd opening closed

theorem of_resumed (pausing : started.Pausing events) {wakeAt : Nat}
    (resting : (started.run events).watcher.phase = .resting wakeAt)
    (silent : (started.run events).incident? event = none)
    (opening : ((started.run events).perform event).watcher.phase = .opening) :
    started.Pausing (events ++ [event]) where
  resting other resting := by
    rw [run_concat, opening] at resting
    cases resting
  opening _ _ := by
    rcases pausing.resting wakeAt resting with ⟨earlier, failing, since, rests, rfl⟩
    refine ⟨earlier, failing, _, rests.concat silent, ?_⟩
    rcases resumes resting opening with ⟨preference, rfl, due | ⟨news, off⟩⟩
    · rw [run_concat]
      exact .inl ((RestartPolicy.rested_iff.mpr due).mono (clock_le_perform _ _))
    · rw [rests.run_eq] at resting news off
      exact .inr ⟨since, preference, [], _, rfl, resting, news, off⟩

theorem concat (pausing : started.Pausing events) (event : WatchEvent) :
    started.Pausing (events ++ [event]) := by
  rcases (started.run events).met_of_perform event with ⟨still, silent⟩ | met
  · exact pausing.of_still still silent
  · generalize after : ((started.run events).perform event).watcher = watcher at met
    generalize incident : (started.run events).incident? event = incident? at met
    have policy := started.policy_run events
    cases met with
    | unopened asking => exact of_failed policy (by rw [incident]; rfl) after
    | ended reading => exact of_failed policy (by rw [incident]; rfl) after
    | resumed seen resting => exact pausing.of_resumed resting incident (by rw [after])
    | asked answer opening | opened asking => exact of_awake (by simp [after]) (by simp [after])
    | dismissed seen unfinished =>
        exact of_awake (by simp [after, Watcher.finish]) (by simp [after, Watcher.finish])
    | received reading | skipped reading | reassured seen reading =>
        exact of_awake (by simp [after, reading]) (by simp [after, reading])

theorem run (collection : Collection) (policy : RestartPolicy) (seen : Nat) (world : FeedWorld)
    (events : List WatchEvent) : (start collection policy seen world).Pausing events := by
  induction events using List.reverseRecOn with
  | nil =>
      exact ⟨fun _ resting => (by cases resting), fun _ asked => absurd asked (Nat.lt_irrefl 0)⟩
  | append_singleton events event induction => exact induction.concat event

end Pausing

/-! ## Reopening -/

structure Reopens (started : Watch) (events : List WatchEvent) (event : WatchEvent) : Prop where
  before : 0 < attempts (started.course events)
  asks : ((started.run events).incident? event).any Incident.isAttempt = true

theorem phase_of_attempt (asks : (watch.incident? event).any Incident.isAttempt = true) :
    watch.watcher.phase = .opening := by
  cases event with
  | step preference =>
      simp only [incident?] at asks
      cases stepped : watch.watcher.step preference watch.world with
      | none => simp [stepped] at asks
      | some pair =>
          rw [stepped, Option.bind_some, Watcher.isAttempt_incident?_iff] at asks
          exact asks.1
  | _ => simp [incident?] at asks

/-- Between a failure and the next opening lies a rest, and it is cut short only by a setting
of the switch that leaves it off. -/
theorem rests_before_reopening (collection : Collection) (policy : RestartPolicy) (seen : Nat)
    (world : FeedWorld) (events : List WatchEvent) (event : WatchEvent)
    (reopens : (start collection policy seen world).Reopens events event) :
    let started := start collection policy seen world
    ∃ earlier failing resting, started.RestsSince events earlier failing resting ∧
      (policy.Rested (started.run earlier).world.clock (started.run events).world.clock ∨
        (started.run (earlier ++ [failing])).Roused resting) ∧
      ((started.run earlier).watcher.seen = (started.run earlier).world.switch.settings →
        .around (.turnSwitch false) ∉ resting →
          policy.Rested (started.run earlier).world.clock (started.run events).world.clock) := by
  intro started
  have opening := phase_of_attempt reopens.asks
  rcases (Pausing.run collection policy seen world events).opening opening reopens.before with
    ⟨earlier, failing, resting, rests, cause⟩
  refine ⟨earlier, failing, resting, rests, cause, fun known unset => ?_⟩
  exact cause.resolve_right (rests.not_roused known unset)

theorem rests_before_reopening_of_one :
    let started := start .comment ⟨5, 1000⟩ 0 {}
    let events : List WatchEvent :=
      [.step .other, .step .other, .around (.endStreams .comment), .step .other,
        .around (.tick 1000), .step .other]
    started.Reopens events (.step .other) ∧
      ∃ earlier failing resting, started.RestsSince events earlier failing resting ∧
        (started.watcher.policy.Rested (started.run earlier).world.clock 1000 ∨
          (started.run (earlier ++ [failing])).Roused resting) := by
  intro started events
  have reopens : started.Reopens events (.step .other) := ⟨by decide, by decide⟩
  rcases rests_before_reopening .comment ⟨5, 1000⟩ 0 {} events (.step .other) reopens with
    ⟨earlier, failing, resting, rests, cause, _⟩
  exact ⟨reopens, earlier, failing, resting, rests, cause⟩

/-- The switch is set and left off, and the watcher opens again without any rest. -/
theorem reopens_unrested :
    let started := start .comment ⟨5, 1000⟩ 0 {}
    let earlier : List WatchEvent :=
      [.step .other, .step .other, .around (.endStreams .comment)]
    let resting : List WatchEvent := [.around (.turnSwitch false), .step .other]
    let events := earlier ++ .step .other :: resting
    started.RestsSince events earlier (.step .other) resting ∧
      started.Reopens events (.step .other) ∧
      ¬ (started.run earlier).world.clock + started.watcher.policy.backoff ≤
        (started.run events).world.clock :=
  ⟨⟨rfl, by decide, by decide⟩, ⟨by decide, by decide⟩, by decide⟩

end Watch

end SharedEditing
