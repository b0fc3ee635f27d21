import SignIn.Proofs.System.Pollers
import SignIn.Proofs.System.Change

/-!
# How pollers end

A poller that has ended stays as it ended for as long as it is there.  It ends as logged in
only by its own login, and that is also the only thing by which it changes the controller:
what a poller does otherwise leaves the controller alone, and so does a login for which it
is too late.
-/

namespace SignIn

namespace System

def Ended (system : System) (number : Nat) (result : PollResult) : Prop :=
  ∃ task, system.poller? number = some task ∧ task.poller.phase = .ended result

/-- The poller of a number has ended in a way or is gone. -/
structure Settled (result : PollResult) (system : System) (number : Nat) : Prop where
  small : number < system.pollers.length
  ended : ∀ task, system.poller? number = some task → task.poller.phase = .ended result

theorem Ended.unique {system : System} {number : Nat} {first second : PollResult}
    (endedFirst : system.Ended number first) (endedSecond : system.Ended number second) :
    first = second := by
  obtain ⟨task, there, phase⟩ := endedFirst
  obtain ⟨found, same, phaseFound⟩ := endedSecond
  obtain rfl := Option.some.inj (there.symm.trans same)
  simpa [phase] using phaseFound

theorem Ended.settled {system : System} {number : Nat} {result : PollResult}
    (ended : system.Ended number result) : Settled result system number := by
  obtain ⟨task, there, phase⟩ := ended
  refine ⟨number_lt_of_poller? there, ?_⟩
  intro found same
  obtain rfl := Option.some.inj (there.symm.trans same)
  exact phase

theorem Settled.follow {result : PollResult} {system after : System} {number : Nat} {locks : Bool}
    (settled : Settled result system number) (follow : Follow locks system.pollers after.pollers) :
    Settled result after number := by
  constructor
  · exact Nat.lt_of_lt_of_le settled.small follow.length
  · intro task there
    obtain ⟨earlier, found, moves⟩ := follow.exists_before settled.small there
    exact moves.ended (settled.ended earlier found)

theorem Settled.of_pollers_eq {result : PollResult} {system after : System} {number : Nat}
    (settled : Settled result system number) (same : after.pollers = system.pollers) :
    Settled result after number := by
  have follow : Follow true system.pollers after.pollers := by
    rw [same]
    exact Follow.refl system.pollers
  exact settled.follow follow

theorem join_getElem?_set_cases {pollers : List (Option PollTask)} {number other : Nat}
    {held replaced task : PollTask} (found : pollers[other]?.join = some held)
    (there : (pollers.set other (some replaced))[number]?.join = some task) :
    (other = number ∧ replaced = task) ∨ pollers[number]?.join = some task := by
  by_cases same : other = number
  · subst same
    obtain ⟨small, _⟩ := List.getElem?_eq_some_iff.mp (Option.join_eq_some_iff.mp found)
    rw [List.getElem?_set_self small] at there
    exact .inl ⟨rfl, by simpa using there⟩
  · rw [List.getElem?_set_ne same] at there
    exact .inr there

theorem Managed.ended {locks : Bool} {before after : List (Option PollTask)}
    (managed : Managed before locks after) {number : Nat} {task : PollTask} {result : PollResult}
    (there : after[number]?.join = some task) (ended : task.poller.phase = .ended result) :
    ∃ earlier, before[number]?.join = some earlier ∧ earlier.poller.phase = .ended result := by
  cases managed with
  | same => exact ⟨task, there, ended⟩
  | start _ started fresh =>
      by_cases small : number < before.length
      · rw [List.getElem?_append_left small] at there
        exact ⟨task, there, ended⟩
      · rw [List.getElem?_append_right (Nat.le_of_not_lt small)] at there
        cases beyond : number - before.length with
        | zero =>
            rw [beyond] at there
            obtain rfl : started = task := by simpa using there
            rw [fresh] at ended
            contradiction
        | succ further =>
            rw [beyond] at there
            simp at there
  | @hand _ other held found holder =>
      rcases join_getElem?_set_cases found there with ⟨rfl, rfl⟩ | still
      · exact ⟨held, found, ended⟩
      · exact ⟨task, still, ended⟩
  | @cancel other held found holder =>
      rcases join_getElem?_set_cases found there with ⟨rfl, rfl⟩ | still
      · exact ⟨held, found, ended⟩
      · exact ⟨task, still, ended⟩
  | clear =>
      rw [List.getElem?_map] at there
      cases found : before[number]? <;> simp [found] at there

theorem ended_of_step {system : System} {event : Event}
    (apart : ∀ number action, event ≠ .poll number action) {number : Nat} {result : PollResult}
    (ended : (system.step event).Ended number result) : system.Ended number result := by
  obtain ⟨task, there, phase⟩ := ended
  exact (system.managed_step event apart).ended there phase

/-- A poller that is about to log in and has not been cancelled, while nobody is signed
in. -/
structure Free (system : System) (number : Nat) where
  task : PollTask
  session : SignedIn
  there : system.poller? number = some task
  committing : task.poller.phase = .committing session
  uncancelled : task.poller.cancelled = false
  anonymous : system.controller.session = .anonymous

/-- A poller that is free to log in does so, or fails to because its session cannot be
saved. -/
inductive Attempt (before : System) (number : Nat) (after : System) : Prop where
  | entered (free : before.Free number)
      (saved : (before.controller.store.save free.session).2 = .ok ())
      (now : after.controller = before.controller.enter free.session)
      (ended : after.Ended number (.loggedIn free.session.profile))
  | missed (free : before.Free number) {error : StoreError}
      (unsaved : (before.controller.store.save free.session).2 = .error error)
      (now : after.controller = before.controller.miss free.session)
      (ended : after.Ended number (.failed (.store error)))

section Poll

variable (system : System)

theorem poller?_poll_of_ne {number other : Nat} (apart : other ≠ number) (action : PollAction) :
    (system.poll other action).poller? number = system.poller? number := by
  unfold poll
  split
  · rfl
  · rename_i task _
    cases action with
    | ask =>
        simp only
        split
        · exact poller?_withPoller_ne apart _
        · rfl
    | receive answer =>
        simp only [receive]
        split
        · rfl
        · rename_i request _
          have same := system.pollers_hear request answer
          revert same
          generalize system.hear request answer = result
          intro same
          simp only [poller?, ← same]
          exact poller?_withPoller_ne apart _
    | commit =>
        simp only [commitPoll]
        split <;> exact poller?_withPoller_ne apart _
    | _ => exact poller?_withPoller_ne apart _

theorem ended_poll_of_ne {number other : Nat} (apart : other ≠ number) {action : PollAction}
    {result : PollResult} (ended : (system.poll other action).Ended number result) :
    system.Ended number result := by
  obtain ⟨task, there, phase⟩ := ended
  rw [system.poller?_poll_of_ne apart] at there
  exact ⟨task, there, phase⟩

theorem quiet_poll {number : Nat} {action : PollAction} (apart : action ≠ .commit) :
    Quiet system (system.poll number action) := by
  unfold poll
  split
  · exact Quiet.refl system
  · cases action with
    | ask =>
        simp only
        split
        · exact (quiet_withPoller system _ _).trans (quiet_send _ _)
        · exact Quiet.refl system
    | receive answer => exact quiet_receive system _ _ _
    | commit => exact absurd rfl apart
    | _ => exact quiet_withPoller system _ _

theorem ended_of_poll {number : Nat} {action : PollAction} (apart : action ≠ .commit)
    {profile : Profile} (loggedIn : (system.poll number action).Ended number (.loggedIn profile)) :
    system.Ended number (.loggedIn profile) := by
  obtain ⟨task, there, phase⟩ := loggedIn
  cases found : system.poller? number with
  | none =>
      rw [poll, found] at there
      simp [found] at there
  | some earlier =>
      have small := number_lt_of_poller? found
      obtain ⟨same, foundToo, moves⟩ := (system.follow_poll number action).exists_before small there
      obtain rfl := Option.some.inj (found.symm.trans foundToo)
      rcases moves.loggedIn_cases phase with before | ⟨session, committing, _⟩
      · exact ⟨earlier, found, before⟩
      · -- A poller that is about to log in does nothing but that.
        have stays : task.poller = earlier.poller := by
          cases action with
          | commit => exact absurd rfl apart
          | begin =>
              rw [poll, found] at there
              have now := there.symm.trans (poller?_withPoller small _)
              obtain rfl := Option.some.inj now
              exact Poller.begin_of_committing committing _
          | _ => exact Poller.Moves.eq_of_committing moves committing
        rw [stays, committing] at phase
        contradiction

@[simp]
theorem controller_commitPoll (number : Nat) (task : PollTask) :
    (system.commitPoll number task).controller = (task.poller.commit system.controller).1 := by
  unfold commitPoll
  simp only
  split <;> rfl

theorem poller?_commitPoll {number : Nat} {task : PollTask}
    (there : system.poller? number = some task) :
    (system.commitPoll number task).poller? number =
      some { task with poller := (task.poller.commit system.controller).2 } := by
  have now := poller?_withPoller (number_lt_of_poller? there)
    { task with poller := (task.poller.commit system.controller).2 }
  unfold commitPoll
  simp only
  split <;> exact now

theorem commitPoll_cases {number : Nat} {task : PollTask}
    (there : system.poller? number = some task) :
    ((system.commitPoll number task).controller = system.controller ∧
        ∀ profile, (system.commitPoll number task).Ended number (.loggedIn profile) →
          system.Ended number (.loggedIn profile)) ∨
      Attempt system number (system.commitPoll number task) := by
  have now := system.poller?_commitPoll there
  have left := system.controller_commitPoll number task
  rcases task.poller.commit_cases system.controller with
    ⟨same, ended⟩ | ⟨session, committing, free, anonymous, ⟨saved, result⟩ | ⟨error, unsaved, result⟩⟩
  · refine .inl ⟨left.trans same, ?_⟩
    rintro profile ⟨later, found, loggedIn⟩
    obtain rfl := Option.some.inj (now.symm.trans found)
    rcases ended with stays | cancelled | superseded
    · exact ⟨task, there, by simpa [stays] using loggedIn⟩
    · simp [cancelled, Poller.finish] at loggedIn
    · simp [superseded, Poller.finish] at loggedIn
  · rw [result] at now left
    exact .inr (.entered ⟨task, session, there, committing, free, anonymous⟩ saved left
      ⟨_, now, rfl⟩)
  · rw [result] at now left
    exact .inr (.missed ⟨task, session, there, committing, free, anonymous⟩ unsaved left
      ⟨_, now, rfl⟩)

/-- What a poller does: it leaves the controller alone and does not come to be logged in, or
it is an attempt to log in. -/
theorem poll_cases (number : Nat) (action : PollAction) :
    ((system.poll number action).controller = system.controller ∧
        ∀ profile, (system.poll number action).Ended number (.loggedIn profile) →
          system.Ended number (.loggedIn profile)) ∨
      Attempt system number (system.poll number action) := by
  by_cases commits : action = .commit
  · subst commits
    cases there : system.poller? number with
    | none =>
        have stays : system.poll number .commit = system := by rw [poll, there]
        rw [stays]
        exact .inl ⟨rfl, fun profile ended => ended⟩
    | some task =>
        have acts : system.poll number .commit = system.commitPoll number task := by
          rw [poll, there]
        rw [acts]
        exact system.commitPoll_cases there
  · exact .inl ⟨(system.quiet_poll commits).controller,
      fun profile => system.ended_of_poll commits⟩

end Poll

end System

end SignIn
