import SignIn.Proofs.System.Lock
import SignIn.Proofs.System.Change

/-!
# Cancelled pollers

Once a poller has been released it does nothing more to the controller, whatever is
still answered to it, and it is reported as logged in only if it had logged in before.
This is so although a login falls into pieces: releasing a poller needs the lock, so that
it never comes between the pieces of the login that it is to prevent.
-/

namespace SignIn

namespace System

/-- The events that release the poller of a number: its handle is cancelled or dropped, the
future that waits for its end is dropped, or the prompt that holds it is closed or dropped
or ends its wait for it. -/
inductive Releases (system : System) (number : Nat) : Event → Prop where
  | cancel {task : PollTask} (there : system.poller? number = some task)
      (held : task.holder = .handle) : Releases system number (.handle number .cancel)
  | drop {task : PollTask} (there : system.poller? number = some task)
      (held : task.holder = .handle) : Releases system number (.handle number .drop)
  | leave {task : PollTask} (there : system.poller? number = some task)
      (held : task.holder = .future) : Releases system number (.handle number .leave)
  | closePrompt {prompt : Nat} {opened : OpenPrompt}
      (there : system.prompt? prompt = some opened) (idle : opened.call = .idle)
      (held : opened.prompt.poller = some number) :
      Releases system number (.prompt prompt .close)
  | dropPrompt {prompt : Nat} {opened : OpenPrompt}
      (there : system.prompt? prompt = some opened) (idle : opened.call = .idle)
      (held : opened.prompt.poller = some number) :
      Releases system number (.prompt prompt .drop)
  | leavePrompt {prompt : Nat} {opened : OpenPrompt}
      (there : system.prompt? prompt = some opened) (held : opened.call = .waiting number) :
      Releases system number (.prompt prompt .leave)

/-- The poller of a number that is past: it is cancelled or gone, and it is reported as
logged in only if it was so before. -/
structure Past (before : Poller) (system : System) (number : Nat) : Prop where
  small : number < system.pollers.length
  cancelled : ∀ task, system.poller? number = some task → task.poller.cancelled = true
  loggedIn : ∀ task profile, system.poller? number = some task →
    task.poller.phase = .ended (.loggedIn profile) →
    before.phase = .ended (.loggedIn profile)

theorem past_of_cancelled {system after : System} {number : Nat} {task cancelled : PollTask}
    (there : system.poller? number = some task)
    (poller : cancelled.poller = task.poller.cancel)
    (pollers : after.pollers = (system.withPoller number cancelled).pollers) :
    Past task.poller after number := by
  have small := number_lt_of_poller? there
  have now : after.poller? number = some cancelled := by
    rw [poller?, pollers]
    exact poller?_withPoller small cancelled
  constructor
  · rw [pollers, withPoller, List.length_set]
    exact small
  · intro found same
    obtain rfl : cancelled = found := by simpa [now] using same
    rw [poller]
    rfl
  · intro found profile same loggedIn
    obtain rfl : cancelled = found := by simpa [now] using same
    rw [poller] at loggedIn
    exact loggedIn

theorem past_release {system after : System} {number : Nat} {task : PollTask}
    (there : system.poller? number = some task)
    (pollers : after.pollers = (system.release number).pollers) :
    Past task.poller after number := by
  rw [release, there] at pollers
  exact past_of_cancelled there rfl pollers

theorem prompt_of_there {system : System} {number : Nat} {opened : OpenPrompt}
    (there : system.prompt? number = some opened) (action : PromptAction) :
    system.prompt number action = system.actPrompt number opened action := by
  rw [prompt, there]

theorem closePrompt_of_held {system : System} {number task : Nat} {opened : OpenPrompt}
    (held : opened.prompt.poller = some task) :
    system.closePrompt number opened = (system.release task).withPrompt number none := by
  rw [closePrompt, held]

theorem past_of_releases {system : System} {number : Nat} {task : PollTask} {event : Event}
    (there : system.poller? number = some task) (releases : Releases system number event) :
    Past task.poller (system.step event) number := by
  cases releases with
  | cancel found held =>
      obtain rfl := Option.some.inj (there.symm.trans found)
      have pollers : (system.step (.handle number .cancel)).pollers =
          (system.withPoller number { task with poller := task.poller.cancel }).pollers := by
        simp only [step, handle, there, held]
      exact past_of_cancelled there rfl pollers
  | drop found held =>
      obtain rfl := Option.some.inj (there.symm.trans found)
      apply past_release there
      simp only [step, handle, there, held]
  | leave found held =>
      obtain rfl := Option.some.inj (there.symm.trans found)
      apply past_release there
      simp only [step, handle, there, held]
  | @closePrompt prompt opened found idle held =>
      apply past_release there
      rw [step, prompt_of_there found, actPrompt, idle]
      simp only [closePrompt_of_held held]
      rfl
  | @dropPrompt prompt opened found idle held =>
      apply past_release there
      rw [step, prompt_of_there found, actPrompt, idle]
      simp only [closePrompt_of_held held]
      rfl
  | @leavePrompt prompt opened found held =>
      apply past_release there
      rw [step, prompt_of_there found, actPrompt.eq_def, held]
      rfl

/-- What is past stays past. -/
theorem past_of_follow {before : Poller} {system after : System} {number : Nat} {locks : Bool}
    (past : Past before system number) (follow : Follow locks system.pollers after.pollers) :
    Past before after number := by
  constructor
  · exact Nat.lt_of_lt_of_le past.small follow.length
  · intro task there
    obtain ⟨earlier, found, moves⟩ := follow.exists_before past.small there
    exact moves.cancelled (past.cancelled earlier found)
  · intro task profile there loggedIn
    obtain ⟨earlier, found, moves⟩ := follow.exists_before past.small there
    exact past.loggedIn earlier profile found
      (moves.loggedIn (past.cancelled earlier found) loggedIn)

theorem past_of_pollers_eq {before : Poller} {system after : System} {number : Nat}
    (past : Past before system number) (same : after.pollers = system.pollers) :
    Past before after number := by
  have follow : Follow true system.pollers after.pollers := by
    rw [same]
    exact Follow.refl system.pollers
  exact past_of_follow past follow

theorem past_step {before : Poller} {system : System} {number : Nat}
    (past : Past before system number) (event : Event) :
    Past before (system.step event) number :=
  past_of_follow past (system.follow_step event)

/-- A poller that ends leaves another one in the past, and itself too if it has not logged
in. -/
theorem past_finishPoller {before : Poller} {system : System} {number other : Nat}
    {result : PollResult} (past : Past before system number)
    (refused : other = number → ∀ profile, result ≠ .loggedIn profile) :
    Past before (system.finishPoller other result) number := by
  unfold finishPoller
  cases found : system.poller? other with
  | none => exact past
  | some task =>
      have small := number_lt_of_poller? found
      by_cases same : other = number
      · subst same
        have now := poller?_withPoller small
          { task with poller := task.poller.finish result }
        constructor
        · simpa [withPoller] using past.small
        · intro later there
          obtain rfl := Option.some.inj (now.symm.trans there)
          exact past.cancelled task found
        · intro later profile there loggedIn
          obtain rfl := Option.some.inj (now.symm.trans there)
          exact absurd (by simpa [Poller.finish] using loggedIn) (refused rfl profile)
      · have now := @poller?_withPoller_ne system number other same
          { task with poller := task.poller.finish result }
        constructor
        · simpa [withPoller] using past.small
        · intro later there
          exact past.cancelled later (now.symm.trans there)
        · intro later profile there loggedIn
          exact past.loggedIn later profile (now.symm.trans there) loggedIn

theorem controller_poll_of_past {before : Poller} {system : System} {number : Nat}
    (past : Past before system number) (action : PollAction) :
    (system.step (.poll number action)).controller = system.controller := by
  show (system.poll number action).controller = system.controller
  unfold poll
  cases there : system.poller? number with
  | none => rfl
  | some task =>
      cases action with
      | begin => rfl
      | noticeCancel => rfl
      | noticeLogin => rfl
      | ask =>
          simp only
          split <;> rfl
      | receive answer => exact (system.quiet_receive number task answer).controller
      | commit =>
          have same := Poller.commit_of_cancelled (past.cancelled task there) system.controller
          show (system.commitPoll number task).controller = system.controller
          unfold commitPoll
          simp only
          split <;> exact same

end System

namespace LockedSystem

open SignIn.System (Past Releases)

/-- What the poller of a number may do: act as a whole, take the lock, or go on while it
has it. -/
inductive Acts (locked : LockedSystem) (number : Nat) : LockedEvent → Prop where
  | whole (action : PollAction) : Acts locked number (.whole (.poll number action))
  | enter : Acts locked number (.enter number)
  | save {holder : LockHolder} (held : locked.holder = some holder)
      (mine : holder.number = number) : Acts locked number .save
  | leave {holder : LockHolder} (held : locked.holder = some holder)
      (mine : holder.number = number) : Acts locked number .leave

variable {before : Poller} {locked : LockedSystem} {number : Nat}

/-- Whoever has the lock is not past. -/
theorem not_past_of_holder (guarded : locked.Guarded) {holder : LockHolder}
    (held : locked.holder = some holder) : ¬ Past before locked.system holder.number := by
  intro past
  obtain ⟨task, there, _, free⟩ := guarded holder held
  rw [past.cancelled task there] at free
  contradiction

theorem past_whole (past : Past before locked.system number) (event : Event) :
    Past before (locked.whole event).system number := by
  have stepped := System.past_step past event
  unfold whole
  split
  · exact stepped
  · split
    · exact past
    · exact stepped

theorem past_enter (past : Past before locked.system number) (other : Nat) :
    Past before (locked.enter other).system number := by
  unfold enter
  split
  · exact past
  · split
    · exact past
    · split
      · split
        · exact System.past_finishPoller past (by simp)
        · split
          · exact System.past_finishPoller past (by simp)
          · exact past
      · exact past

theorem past_save (past : Past before locked.system number) :
    Past before locked.save.system number := by
  unfold save
  split
  · rename_i other session held
    split
    · rename_i error _
      have ended : Past before
          (locked.system.finishPoller other (.failed (.store error))) number :=
        System.past_finishPoller past (by simp)
      exact System.past_of_pollers_eq ended rfl
    · exact System.past_of_pollers_eq past rfl
  · exact past

theorem past_leave (guarded : locked.Guarded) (past : Past before locked.system number) :
    Past before locked.leave.system number := by
  unfold leave
  split
  · rename_i other session held
    have ended : Past before
        (locked.system.finishPoller other (.loggedIn session.profile)) number := by
      apply System.past_finishPoller past
      rintro rfl
      exact absurd past (not_past_of_holder guarded held)
    exact System.past_of_pollers_eq ended rfl
  · exact past

/-- What is past stays past, also while someone logs in piece by piece. -/
theorem past_step (guarded : locked.Guarded) (past : Past before locked.system number)
    (event : LockedEvent) : Past before (locked.step event).system number := by
  cases event with
  | whole event => exact past_whole past event
  | enter other => exact past_enter past other
  | save => exact past_save past
  | leave => exact past_leave guarded past

theorem past_run (guarded : locked.Guarded) (past : Past before locked.system number)
    (events : List LockedEvent) : Past before (locked.run events).system number := by
  induction events generalizing locked with
  | nil => exact past
  | cons event events ih =>
      exact ih (guarded_step guarded event) (past_step guarded past event)

/-- A poller that is past leaves the controller alone, whatever it does. -/
theorem controller_step_of_past (guarded : locked.Guarded)
    (past : Past before locked.system number) {event : LockedEvent}
    (acts : locked.Acts number event) :
    (locked.step event).system.controller = locked.system.controller := by
  cases acts with
  | whole action =>
      show (locked.whole (.poll number action)).system.controller = locked.system.controller
      unfold whole
      simp only
      split
      · rfl
      · exact System.controller_poll_of_past past action
  | enter => exact controller_enter locked number
  | save held mine =>
      subst mine
      exact absurd past (not_past_of_holder guarded held)
  | leave held mine =>
      subst mine
      exact absurd past (not_past_of_holder guarded held)

/-- Once a poller has been released, nothing that it still does changes the session, the
flag or the store, whatever else happens meanwhile; and it is reported as logged in only
if it had logged in before. -/
theorem released_poller_changes_nothing {client : Client} {store : Backing} {later : Refusal}
    {events : List LockedEvent}
    (reached : (LockedSystem.start client store later).run events = locked)
    (free : locked.holder = none) {task : PollTask}
    (there : locked.system.poller? number = some task) {event : Event}
    (releases : Releases locked.system number event) (further : List LockedEvent) :
    let now := (locked.step (.whole event)).run further
    (∀ piece, now.Acts number piece →
        (now.step piece).system.controller = now.system.controller) ∧
      ∀ ended profile, now.system.poller? number = some ended →
        ended.poller.phase = .ended (.loggedIn profile) →
        task.poller.phase = .ended (.loggedIn profile) := by
  have guarded : locked.Guarded := by
    rw [← reached]
    exact guarded_run (guarded_of_free rfl) events
  have released : Past task.poller (locked.step (.whole event)).system number := by
    have past := System.past_of_releases there releases
    show Past task.poller (locked.whole event).system number
    unfold whole
    split
    · exact past
    · rw [free]
      exact past
  have guarded' := guarded_step guarded (.whole event)
  have past := past_run guarded' released further
  constructor
  · intro piece acts
    exact controller_step_of_past (guarded_run guarded' further) past acts
  · exact past.loggedIn

/-- A poller that is cancelled while it waits for an answer leaves everything as it is when
the answer comes, also after a login. -/
theorem late_answer_changes_nothing :
    let asked := (start (.ofBase "http://localhost") (.memory .empty) {}).run
      [.whole (.startPolling "ticket" 1000), .whole (.poll 0 .begin), .whole (.poll 0 .ask)]
    let now := (asked.step (.whole (.handle 0 .cancel))).run
      [.whole (.login (Controller.sessionOf "token"))]
    asked.holder = none ∧
      asked.system.poller? 0 = some ⟨⟨"ticket", 1000, false, .asking⟩, .handle⟩ ∧
      now.system.controller.session = .authenticated (Controller.sessionOf "token") ∧
      (now.step (.whole (.poll 0 (.receive .failed)))).system.controller =
        now.system.controller ∧
      (now.step (.enter 0)).system.controller = now.system.controller := by
  intro asked now
  have there : asked.system.poller? 0 =
      some ⟨⟨"ticket", 1000, false, .asking⟩, .handle⟩ := rfl
  have later := released_poller_changes_nothing rfl rfl there (.cancel there rfl)
    [.whole (.login (Controller.sessionOf "token"))]
  refine ⟨rfl, there, rfl, ?_, ?_⟩
  · exact later.1 _ (.whole _)
  · exact later.1 _ .enter

end LockedSystem

end SignIn
