import SignIn.Proofs.System.Pollers

/-!
# The lock, piece by piece

In a system whatever the controller does under its lock is one event.  Here the login of
a poller falls into the pieces that it is made of: it takes the lock and looks at whether
it may log in, it saves its session, and it tells of the session and gives the lock back.
Anything that does not need the lock may come between.  Whatever needs it waits, so that
nothing is heard of it until the lock is free.

When nothing comes between, the pieces are the login of the poller as a whole.  When
something does, the poller that has the lock still stands where it stood, and it has not
been cancelled.
-/

namespace SignIn

/-- A poller that has the lock in order to log in: its number, its session, and whether
the session has been saved. -/
structure LockHolder where
  number : Nat
  session : SignedIn
  saved : Bool := false
  deriving DecidableEq, Repr

structure LockedSystem where
  system : System
  holder : Option LockHolder := none
  deriving Repr

/-- What may happen next: an event as a whole, or a piece of a login. -/
inductive LockedEvent where
  | whole (event : Event)
  | enter (number : Nat)
  | save
  | leave
  deriving DecidableEq, Repr

def System.finishPoller (system : System) (number : Nat) (result : PollResult) : System :=
  match system.poller? number with
  | none => system
  | some task => system.withPoller number { task with poller := task.poller.finish result }

namespace LockedSystem

def start (client : Client) (store : Backing) (later : Refusal) : LockedSystem where
  system := .start client store later

/-- Lets an event happen as a whole, unless it needs the lock and someone has it.  After a
restart nobody has it. -/
def whole (locked : LockedSystem) (event : Event) : LockedSystem :=
  match event with
  | .restart _ => { system := locked.system.step event }
  | _ =>
    if locked.holder.isSome && locked.system.locks event then locked
    else { locked with system := locked.system.step event }

/-- Lets a poller that is about to log in take the lock, if nobody has it.  A poller that
has been cancelled ends, and so it does when someone is signed in. -/
def enter (locked : LockedSystem) (number : Nat) : LockedSystem :=
  if locked.holder.isSome then locked
  else
    match locked.system.poller? number with
    | none => locked
    | some task =>
      match task.poller.phase with
      | .committing session =>
        if task.poller.cancelled then
          { locked with system := locked.system.finishPoller number .cancelled }
        else if locked.system.controller.session.isAuthenticated then
          { locked with system := locked.system.finishPoller number .superseded }
        else { locked with holder := some { number, session } }
      | _ => locked

/-- Saves the session of the poller that has the lock; if that fails it ends. -/
def save (locked : LockedSystem) : LockedSystem :=
  match locked.holder with
  | some ⟨number, session, false⟩ =>
    match locked.system.controller.store.save session with
    | (store, .error error) =>
      let controller := { locked.system.controller with store }
      let ended := locked.system.finishPoller number (.failed (.store error))
      { system := { ended with controller } }
    | (store, .ok ()) =>
      let controller := { locked.system.controller with store }
      { system := { locked.system with controller }
        holder := some ⟨number, session, true⟩ }
  | _ => locked

/-- Tells of the session that has been saved, and ends the login. -/
def leave (locked : LockedSystem) : LockedSystem :=
  match locked.holder with
  | some ⟨number, session, true⟩ =>
    let controller := locked.system.controller.become (.authenticated session)
    let ended := locked.system.finishPoller number (.loggedIn session.profile)
    { system := ended.commit controller session }
  | _ => locked

def step (locked : LockedSystem) : LockedEvent → LockedSystem
  | .whole event => locked.whole event
  | .enter number => locked.enter number
  | .save => locked.save
  | .leave => locked.leave

def run (locked : LockedSystem) (events : List LockedEvent) : LockedSystem :=
  events.foldl step locked

@[simp]
theorem run_nil (locked : LockedSystem) : locked.run [] = locked :=
  rfl

@[simp]
theorem run_cons (locked : LockedSystem) (event : LockedEvent) (events : List LockedEvent) :
    locked.run (event :: events) = (locked.step event).run events :=
  rfl

@[simp]
theorem run_append (locked : LockedSystem) (first second : List LockedEvent) :
    locked.run (first ++ second) = (locked.run first).run second := by
  simp [run]

theorem controller_enter (locked : LockedSystem) (number : Nat) :
    (locked.enter number).system.controller = locked.system.controller := by
  unfold enter System.finishPoller
  split
  · rfl
  · split
    · rfl
    · split
      · split
        · split <;> rfl
        · split
          · split <;> rfl
          · rfl
      · rfl

theorem finishPoller_of_there {system : System} {number : Nat} {task : PollTask}
    (there : system.poller? number = some task) (result : PollResult) :
    system.finishPoller number result =
      system.withPoller number { task with poller := task.poller.finish result } := by
  rw [System.finishPoller, there]

theorem withPoller_self {system : System} {number : Nat} {task : PollTask}
    (there : system.poller? number = some task) : system.withPoller number task = system := by
  have same : system.pollers[number]? = some (some task) := by
    rw [System.poller?] at there
    exact Option.join_eq_some_iff.mp there
  obtain ⟨small, entry⟩ := List.getElem?_eq_some_iff.mp same
  rw [System.withPoller, ← entry, List.set_getElem_self]

/-- A poller that takes the lock, saves and leaves with nothing between has logged in as a
whole, or it has ended the way it would have. -/
theorem run_pieces (system : System) (number : Nat) :
    (LockedSystem.mk system none).run [.enter number, .save, .leave] =
      ⟨system.step (.poll number .commit), none⟩ := by
  show (((LockedSystem.mk system none).enter number).save).leave =
    ⟨system.poll number .commit, none⟩
  cases there : system.poller? number with
  | none => simp [enter, save, leave, System.poll, there]
  | some task =>
      have finished := @finishPoller_of_there system number task there
      simp only [System.poll, there, System.commitPoll, Poller.commit]
      cases phase : task.poller.phase with
      | committing session =>
          simp only [enter, there, phase, Controller.loginIfAnonymous, Option.isSome_none,
            Bool.false_eq_true, if_false]
          by_cases cancelled : task.poller.cancelled = true
          · simp [save, leave, cancelled, finished, Poller.finish, System.withPoller]
          · by_cases authenticated : system.controller.session.isAuthenticated = true
            · simp [save, leave, cancelled, authenticated, finished, Poller.finish,
                System.withPoller]
            · simp only [cancelled, authenticated, Bool.false_eq_true, if_false]
              simp only [save, Controller.login]
              cases outcome : system.controller.store.save session with
              | mk store result =>
                  cases result with
                  | error error => simp [leave, finished, Poller.finish, System.withPoller]
                  | ok _ =>
                      let stored : System :=
                        { system with controller := { system.controller with store } }
                      have ended := @finishPoller_of_there stored number task there
                      simp [leave, stored, ended, Poller.finish, System.withPoller,
                        System.commit]
      | _ =>
          simp [enter, save, leave, there, phase, withPoller_self there]

/-- Whoever has the lock is a poller that is about to log in and has not been cancelled. -/
def Guarded (locked : LockedSystem) : Prop :=
  ∀ holder, locked.holder = some holder →
    ∃ task, locked.system.poller? holder.number = some task ∧
      task.poller.phase = .committing holder.session ∧ task.poller.cancelled = false

theorem guarded_of_free {locked : LockedSystem} (free : locked.holder = none) :
    locked.Guarded := by
  intro holder held
  rw [free] at held
  contradiction

/-- An event that leaves the lock alone leaves the poller that has it alone. -/
theorem guarded_of_follow {locked after : LockedSystem} (guarded : locked.Guarded)
    (same : after.holder = locked.holder)
    (follow : System.Follow false locked.system.pollers after.system.pollers) :
    after.Guarded := by
  intro holder held
  rw [same] at held
  obtain ⟨task, there, committing, free⟩ := guarded holder held
  obtain ⟨later, found, moves⟩ := follow.exists_after there
  have stays : later.poller = task.poller := moves.eq_of_committing committing
  refine ⟨later, found, ?_, ?_⟩
  · rw [stays]
    exact committing
  · rw [stays]
    exact free

theorem guarded_whole {locked : LockedSystem} (guarded : locked.Guarded) (event : Event) :
    (locked.whole event).Guarded := by
  unfold whole
  split
  · exact guarded_of_free rfl
  · split
    · exact guarded
    · rename_i apart
      cases held : locked.holder with
      | none => exact guarded_of_free rfl
      | some holder =>
          have needless : locked.system.locks event = false := by simpa [held] using apart
          have follow := locked.system.follow_step event
          rw [needless] at follow
          exact guarded_of_follow guarded held.symm follow

theorem guarded_enter {locked : LockedSystem} (guarded : locked.Guarded) (number : Nat) :
    (locked.enter number).Guarded := by
  unfold enter
  split
  · exact guarded
  · rename_i nobody
    have free : locked.holder = none := by simpa using nobody
    split
    · exact guarded
    · rename_i task there
      split
      · rename_i session committing
        split
        · exact guarded_of_free free
        · rename_i valid
          split
          · exact guarded_of_free free
          · intro holder held
            obtain rfl := Option.some.inj held
            exact ⟨task, there, committing, by simpa using valid⟩
      · exact guarded

theorem guarded_save {locked : LockedSystem} (guarded : locked.Guarded) :
    locked.save.Guarded := by
  unfold save
  split
  · rename_i number session held
    split
    · exact guarded_of_free rfl
    · intro holder entered
      obtain rfl := Option.some.inj entered
      exact guarded ⟨number, session, false⟩ held
  · exact guarded

theorem guarded_leave {locked : LockedSystem} (guarded : locked.Guarded) :
    locked.leave.Guarded := by
  unfold leave
  split
  · exact guarded_of_free rfl
  · exact guarded

theorem guarded_step {locked : LockedSystem} (guarded : locked.Guarded)
    (event : LockedEvent) : (locked.step event).Guarded := by
  cases event with
  | whole event => exact guarded_whole guarded event
  | enter number => exact guarded_enter guarded number
  | save => exact guarded_save guarded
  | leave => exact guarded_leave guarded

theorem guarded_run {locked : LockedSystem} (guarded : locked.Guarded)
    (events : List LockedEvent) : (locked.run events).Guarded := by
  induction events generalizing locked with
  | nil => exact guarded
  | cons event events ih => exact ih (guarded_step guarded event)

end LockedSystem

end SignIn
