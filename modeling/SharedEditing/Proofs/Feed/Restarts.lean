import Mathlib.Data.List.DropRight
import SharedEditing.Proofs.Feed.Course

/-! # Restarts are counted exactly

A watcher gives up at a failure for which no restart is left. How many restarts it has
made is read off its course: every attempt since the last change is one, except the
very first attempt of all. -/

namespace SharedEditing

def sinceChange (course : List Incident) : List Incident :=
  course.rtakeWhile fun incident => incident != .received

/-- The first attempt of all opens the feed, and every other reopens it. -/
def firstAttempts (course : List Incident) : Nat := if .received ∈ course then 0 else 1

def reopenings (course : List Incident) : Nat :=
  attempts (sinceChange course) - firstAttempts course

def Failing (course : List Incident) : Prop :=
  course.getLast?.any Incident.isFailure = true

/-! ## One incident more -/

section Concat

variable (course : List Incident) (incident : Incident)

theorem sinceChange_received : sinceChange (course ++ [.received]) = [] :=
  List.rtakeWhile_concat_neg _ _ _ (by decide)

theorem firstAttempts_received : firstAttempts (course ++ [.received]) = 0 :=
  if_pos (by simp)

theorem sinceChange_of_unchanged {stretch : List Incident} (unchanged : .received ∉ stretch) :
    sinceChange stretch = stretch := by
  rw [sinceChange, List.rtakeWhile_eq_self_iff]
  intro incident member
  simpa using fun same : incident = .received => unchanged (same ▸ member)

theorem sinceChange_append {stretch : List Incident} (unchanged : .received ∉ stretch) :
    sinceChange (course ++ .received :: stretch) = stretch := by
  induction stretch using List.reverseRecOn with
  | nil => exact sinceChange_received course
  | append_singleton stretch incident induction =>
      rw [List.mem_append, not_or, List.mem_singleton] at unchanged
      rw [← List.cons_append, ← List.append_assoc, sinceChange,
        List.rtakeWhile_concat_pos _ _ _ (by simpa using Ne.symm unchanged.2)]
      exact congrArg (· ++ [incident]) (induction unchanged.1)

theorem attempts_sinceChange_concat (other : incident ≠ .received) :
    attempts (sinceChange (course ++ [incident])) =
      attempts (sinceChange course) + attempts [incident] := by
  rw [sinceChange, List.rtakeWhile_concat_pos _ _ _ (by simpa using other), attempts_append]
  rfl

theorem firstAttempts_concat (other : incident ≠ .received) :
    firstAttempts (course ++ [incident]) = firstAttempts course := by
  simp [firstAttempts, other.symm]

theorem failing_concat_iff :
    Failing (course ++ [incident]) ↔ incident.isFailure = true := by
  simp [Failing]

end Concat

/-! ## The balance of a watcher -/

namespace Watcher

/-- The failures of a watcher balance with the attempts of its course. A watcher that is about
to open, or rests, has one more attempt to come. -/
structure Balanced (watcher : Watcher) (course : List Incident) : Prop where
  bounded : watcher.failures ≤ watcher.policy.maxRestarts
  pending : (watcher.phase = .opening ∨ ∃ wakeAt, watcher.phase = .resting wakeAt) →
    attempts (sinceChange course) + 1 = watcher.failures + firstAttempts course ∧
      (Failing course → 0 < watcher.failures)
  engaged : (∃ answer, watcher.phase = .asking answer) ∨ (∃ place, watcher.phase = .reading place) →
    attempts (sinceChange course) = watcher.failures + firstAttempts course ∧ ¬ Failing course
  exhausted : watcher.phase = .finished .exhausted →
    attempts (sinceChange course) = watcher.failures + firstAttempts course ∧
      Failing course ∧ watcher.failures = watcher.policy.maxRestarts
  shutdown : watcher.phase = .finished .shutdown →
    attempts (sinceChange course) ≤ watcher.policy.maxRestarts + firstAttempts course ∧
      ¬ (Failing course ∧ reopenings course = watcher.policy.maxRestarts)

variable {watcher after : Watcher} {course : List Incident} {now : Nat}

theorem Met.policy {incident : Option Incident} (met : Met watcher now incident after) :
    after.policy = watcher.policy := by
  cases met with
  | unopened | ended => exact watcher.policy_failed now
  | _ => rfl

namespace Balanced

theorem of_engaged (bounded : watcher.failures ≤ watcher.policy.maxRestarts)
    (engaged : (∃ answer, watcher.phase = .asking answer) ∨ ∃ place, watcher.phase = .reading place)
    (balance : attempts (sinceChange course) = watcher.failures + firstAttempts course)
    (calm : ¬ Failing course) : watcher.Balanced course where
  bounded := bounded
  pending waits := by rcases engaged with ⟨_, own⟩ | ⟨_, own⟩ <;> simp [own] at waits
  engaged _ := ⟨balance, calm⟩
  exhausted ended := by rcases engaged with ⟨_, own⟩ | ⟨_, own⟩ <;> simp [own] at ended
  shutdown ended := by rcases engaged with ⟨_, own⟩ | ⟨_, own⟩ <;> simp [own] at ended

theorem of_failed (bounded : watcher.failures ≤ watcher.policy.maxRestarts)
    (balance : attempts (sinceChange course) = watcher.failures + firstAttempts course)
    (failing : Failing course) (now : Nat) : (watcher.failed now).Balanced course := by
  unfold Watcher.failed
  split
  · rename_i spent
    exact ⟨bounded, by simp [finish], by simp [finish],
      fun _ => ⟨balance, failing, Nat.le_antisymm bounded spent⟩, by simp [finish]⟩
  · rename_i left
    have pending : attempts (sinceChange course) + 1 =
        watcher.failures + 1 + firstAttempts course := by omega
    exact ⟨Nat.lt_of_not_le left, fun _ => ⟨pending, fun _ => Nat.succ_pos _⟩, by simp, by simp,
      by simp⟩

/-- Every attempt since the last change is paid for by a restart, except the very first. -/
theorem attempts_le (balanced : watcher.Balanced course) :
    attempts (sinceChange course) ≤ watcher.policy.maxRestarts + firstAttempts course := by
  have bounded := balanced.bounded
  cases phase : watcher.phase with
  | opening =>
      have pending := (balanced.pending (.inl phase)).1
      omega
  | resting wakeAt =>
      have pending := (balanced.pending (.inr ⟨wakeAt, phase⟩)).1
      omega
  | asking answer =>
      have balance := (balanced.engaged (.inl ⟨answer, phase⟩)).1
      omega
  | reading place =>
      have balance := (balanced.engaged (.inr ⟨place, phase⟩)).1
      omega
  | finished exit =>
      cases exit with
      | shutdown => exact (balanced.shutdown phase).1
      | exhausted =>
          have balance := (balanced.exhausted phase).1
          omega

theorem reopenings_lt (balanced : watcher.Balanced course) (unfinished : watcher.exit? = none)
    (failing : Failing course) : reopenings course < watcher.policy.maxRestarts := by
  have bounded := balanced.bounded
  have left (waits : watcher.phase = .opening ∨ ∃ wakeAt, watcher.phase = .resting wakeAt) :
      reopenings course < watcher.policy.maxRestarts := by
    rcases balanced.pending waits with ⟨balance, failed⟩
    have positive := failed failing
    unfold reopenings
    omega
  cases phase : watcher.phase with
  | opening => exact left (.inl phase)
  | resting wakeAt => exact left (.inr ⟨wakeAt, phase⟩)
  | asking answer => exact absurd failing (balanced.engaged (.inl ⟨answer, phase⟩)).2
  | reading place => exact absurd failing (balanced.engaged (.inr ⟨place, phase⟩)).2
  | finished exit => simp [exit?, phase] at unfinished

theorem dismissed (balanced : watcher.Balanced course) (unfinished : watcher.exit? = none)
    (seen : Nat) : ({ watcher with seen }.finish .shutdown).Balanced course := by
  refine ⟨balanced.bounded, by simp [finish], by simp [finish], by simp [finish], fun _ => ?_⟩
  refine ⟨balanced.attempts_le, ?_⟩
  rintro ⟨failing, spent⟩
  exact Nat.ne_of_lt (balanced.reopenings_lt unfinished failing) spent

theorem met (balanced : watcher.Balanced course) {incident : Option Incident}
    (met : Met watcher now incident after) : after.Balanced (course ++ incident.toList) := by
  have bounded := balanced.bounded
  cases met with
  | asked answer opening =>
      refine of_engaged bounded (.inl ⟨answer, rfl⟩) ?_
        (by simp [failing_concat_iff, Incident.isFailure])
      rw [Option.toList_some, attempts_sinceChange_concat course .asked (by decide),
        firstAttempts_concat course .asked (by decide)]
      exact (balanced.pending (.inl opening)).1
  | unopened asking =>
      refine of_failed bounded ?_ ((failing_concat_iff course .unopened).mpr rfl) now
      rw [attempts_sinceChange_concat course .unopened (by decide),
        firstAttempts_concat course .unopened (by decide)]
      exact (balanced.engaged (.inl ⟨_, asking⟩)).1
  | opened asking =>
      refine of_engaged bounded (.inr ⟨_, rfl⟩) ?_
        (by simp [failing_concat_iff, Incident.isFailure])
      rw [Option.toList_some, attempts_sinceChange_concat course .opened (by decide),
        firstAttempts_concat course .opened (by decide)]
      exact (balanced.engaged (.inl ⟨_, asking⟩)).1
  | received reading =>
      refine of_engaged (Nat.zero_le _) (.inr ⟨_, reading⟩) ?_
        (by simp [failing_concat_iff, Incident.isFailure])
      rw [Option.toList_some, sinceChange_received, firstAttempts_received]
      rfl
  | skipped reading =>
      refine of_engaged bounded (.inr ⟨_, reading⟩) ?_
        (by simp [failing_concat_iff, Incident.isFailure])
      rw [Option.toList_some, attempts_sinceChange_concat course .skipped (by decide),
        firstAttempts_concat course .skipped (by decide)]
      exact (balanced.engaged (.inr ⟨_, reading⟩)).1
  | ended reading =>
      refine of_failed bounded ?_ ((failing_concat_iff course .ended).mpr rfl) now
      rw [attempts_sinceChange_concat course .ended (by decide),
        firstAttempts_concat course .ended (by decide)]
      exact (balanced.engaged (.inr ⟨_, reading⟩)).1
  | dismissed seen unfinished =>
      rw [Option.toList_none, List.append_nil]
      exact balanced.dismissed unfinished seen
  | reassured seen reading =>
      rw [Option.toList_none, List.append_nil]
      rcases balanced.engaged (.inr ⟨_, reading⟩) with ⟨balance, calm⟩
      exact of_engaged bounded (.inr ⟨_, reading⟩) balance calm
  | resumed seen resting =>
      rw [Option.toList_none, List.append_nil]
      exact ⟨bounded, fun _ => balanced.pending (.inr ⟨_, resting⟩), by simp, by simp, by simp⟩

theorem exhausted_iff (balanced : watcher.Balanced course) :
    watcher.exit? = some .exhausted ↔
      Failing course ∧ reopenings course = watcher.policy.maxRestarts := by
  constructor
  · intro given
    cases phase : watcher.phase with
    | finished exit =>
        obtain rfl : exit = .exhausted := by simpa [exit?, phase] using given
        rcases balanced.exhausted phase with ⟨balance, failing, spent⟩
        refine ⟨failing, ?_⟩
        unfold reopenings
        omega
    | _ => simp [exit?, phase] at given
  · rintro ⟨failing, spent⟩
    cases ended : watcher.exit? with
    | none => exact absurd spent (Nat.ne_of_lt (balanced.reopenings_lt ended failing))
    | some exit =>
        cases exit with
        | exhausted => rfl
        | shutdown =>
            have phase : watcher.phase = .finished .shutdown := by
              unfold exit? at ended
              split at ended
              · rename_i exit phase
                rw [phase, Option.some.inj ended]
              · cases ended
            exact absurd ⟨failing, spent⟩ (balanced.shutdown phase).2

end Balanced

end Watcher

/-! ## Runs -/

namespace Watch

variable (collection : Collection) (policy : RestartPolicy) (seen : Nat) (world : FeedWorld)

theorem balanced_run (events : List WatchEvent) :
    ((start collection policy seen world).run events).watcher.Balanced
      ((start collection policy seen world).course events) := by
  induction events using List.reverseRecOn with
  | nil => exact ⟨Nat.zero_le _, fun _ => ⟨rfl, by simp [Failing, course]⟩, by simp [start, run],
      by simp [start, run], by simp [start, run]⟩
  | append_singleton events event induction =>
      rw [run_concat, course_concat]
      rcases ((start collection policy seen world).run events).met_of_perform event with
        ⟨still, nothing⟩ | met
      · rw [still, nothing, Option.toList_none, List.append_nil]
        exact induction
      · exact induction.met met

theorem policy_run (watch : Watch) (events : List WatchEvent) :
    (watch.run events).watcher.policy = watch.watcher.policy := by
  induction events using List.reverseRecOn with
  | nil => rfl
  | append_singleton events event induction =>
      rw [run_concat]
      rcases (watch.run events).met_of_perform event with ⟨still, _⟩ | met
      · rw [still, induction]
      · rw [met.policy, induction]

structure RestartsCounted (started : Watch) (events : List WatchEvent) : Prop where
  exhausted : (started.run events).watcher.exit? = some .exhausted ↔
    Failing (started.course events) ∧
      reopenings (started.course events) = started.watcher.policy.maxRestarts
  bounded : (started.run events).watcher.failures ≤ started.watcher.policy.maxRestarts
  skipped : ∀ event, (started.run events).incident? event = some .skipped →
    ((started.run events).perform event).watcher = (started.run events).watcher
  opening : ∀ stretch, stretch <+: started.course events → .received ∉ stretch →
    attempts stretch ≤ started.watcher.policy.maxRestarts + 1
  reopening : ∀ before stretch, before ++ .received :: stretch <+: started.course events →
    .received ∉ stretch → attempts stretch ≤ started.watcher.policy.maxRestarts
  asked : (∀ event ∈ events, event ≠ .elsewhere (.opens started.watcher.collection)) →
    (started.run events).world.feed.calls started.watcher.collection =
      started.world.feed.calls started.watcher.collection + attempts (started.course events)

theorem RestartsCounted.of_balanced {started : Watch}
    (balanced : ∀ events, (started.run events).watcher.Balanced (started.course events))
    (events : List WatchEvent) : started.RestartsCounted events := by
  -- A stretch of the course was, at some time of the run, all that was met with so far.
  have counted {stretch : List Incident} (begun : stretch <+: started.course events) :
      attempts (sinceChange stretch) ≤
        started.watcher.policy.maxRestarts + firstAttempts stretch := by
    rcases started.exists_course_eq begun with ⟨earlier, _, rfl⟩
    rw [← started.policy_run earlier]
    exact (balanced earlier).attempts_le
  constructor
  case exhausted =>
    rw [← started.policy_run events]
    exact (balanced events).exhausted_iff
  case bounded =>
    rw [← started.policy_run events]
    exact (balanced events).bounded
  case skipped =>
    intro event skipped
    rcases (started.run events).met_of_perform event with ⟨still, _⟩ | met
    · exact still
    · rw [skipped] at met
      generalize ((started.run events).perform event).watcher = after at met ⊢
      cases met with
      | skipped => rfl
  case opening =>
    intro stretch begun unchanged
    have bound := counted begun
    rwa [sinceChange_of_unchanged unchanged, firstAttempts, if_neg unchanged] at bound
  case reopening =>
    intro before stretch begun unchanged
    have bound := counted begun
    rwa [sinceChange_append before unchanged, firstAttempts, if_pos (by simp)] at bound
  case asked => exact started.calls_run

/-- Whatever happens around a watcher, its restarts are counted exactly. -/
theorem restarts_are_counted (collection : Collection) (policy : RestartPolicy) (seen : Nat)
    (world : FeedWorld) (events : List WatchEvent) :
    (start collection policy seen world).RestartsCounted events :=
  .of_balanced (balanced_run collection policy seen world) events

/-- A change gives the only restart back, an unreadable item does not. -/
theorem restarts_are_counted_of_one :
    let started := start .comment ⟨1, 1000⟩ 0 {}
    let events : List WatchEvent :=
      [.step .other, .step .other, .around (.publish ⟨.comment, .insert, "1", none⟩), .step .other,
        .around (.fail .comment "unreadable"), .step .other, .around (.endStreams .comment),
        .step .other, .around (.setUnavailable true), .around (.tick 1000), .step .other,
        .step .other, .step .other]
    started.course events =
        [.asked, .opened, .received, .skipped, .ended, .asked, .unopened] ∧
      (started.run events).watcher.exit? = some .exhausted ∧ started.RestartsCounted events :=
  ⟨by decide, by decide, restarts_are_counted _ _ _ _ _⟩

end Watch

end SharedEditing
