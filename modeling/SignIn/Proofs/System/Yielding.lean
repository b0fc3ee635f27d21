import SignIn.Proofs.System.Logins

/-!
# Pollers give way

A poller never takes the place of whoever is signed in.  It takes the lock only while
nobody is signed in, and until it gives the lock back nobody else can sign in.  So of any
number of pollers at most one logs in before the session is dropped again, and a poller is
reported as logged in exactly if its own login has put its session in memory.
-/

namespace SignIn

/-- Whether only pollers do something in an event. -/
def LockedEvent.isPolling : LockedEvent → Bool
  | .whole (.poll _ _) => true
  | .whole _ => false
  | .enter _ => true
  | .save => true
  | .leave => true

namespace LockedSystem

def Drops (locked : LockedSystem) (event : LockedEvent) : Prop :=
  locked.system.controller.session.isAuthenticated = true ∧
    (locked.step event).system.controller.session = .anonymous

/-- Whoever is signed in stays so, with all that is stored, whatever pollers do. -/
theorem controller_step_of_isPolling {locked : LockedSystem} (orderly : locked.Orderly)
    {session : SignedIn} (held : locked.system.controller.session = .authenticated session)
    {event : LockedEvent} (polling : event.isPolling = true) :
    (locked.step event).system.controller = locked.system.controller := by
  have free : locked.holder = none := by
    cases holder : locked.holder with
    | none => rfl
    | some other =>
        have anonymous := orderly.anonymous (by rw [holder]; rfl)
        rw [held] at anonymous
        contradiction
  have still {number : Nat} (acts : locked.Acts number event) :
      (locked.step event).system.controller = locked.system.controller := by
    apply Classical.byContradiction
    intro changed
    obtain ⟨anonymous, _⟩ := controller_step_of_acts orderly acts changed
    rw [held] at anonymous
    contradiction
  cases event with
  | whole event =>
      cases event with
      | poll number action => exact still (.whole action)
      | _ => simp [LockedEvent.isPolling] at polling
  | enter number => exact controller_enter locked number
  | save => simp [step, save, free]
  | leave => simp [step, leave, free]

theorem controller_run_of_isPolling {locked : LockedSystem} (orderly : locked.Orderly)
    {session : SignedIn} (held : locked.system.controller.session = .authenticated session)
    {events : List LockedEvent} (polling : ∀ event ∈ events, event.isPolling = true) :
    (locked.run events).system.controller = locked.system.controller := by
  induction events generalizing locked with
  | nil => rfl
  | cons event events ih =>
      have same := controller_step_of_isPolling orderly held (polling event (List.mem_cons_self ..))
      have heldAfter : (locked.step event).system.controller.session = .authenticated session := by
        rw [same]
        exact held
      have later := ih (orderly_step orderly event) heldAfter fun other member =>
        polling other (List.mem_cons_of_mem event member)
      exact later.trans same

theorem settled_finishPoller {system : System} {number other : Nat} {result given : PollResult}
    (settled : System.Settled result system number) {task : PollTask} {session : SignedIn}
    (there : system.poller? other = some task)
    (committing : task.poller.phase = .committing session) :
    System.Settled result (system.finishPoller other given) number := by
  rw [finishPoller_of_there there]
  constructor
  · simpa [System.withPoller] using settled.small
  · intro found same
    have apart : other ≠ number := by
      rintro rfl
      rw [settled.ended task there] at committing
      contradiction
    rw [System.poller?_withPoller_ne apart] at same
    exact settled.ended found same

theorem settled_step {locked : LockedSystem} (orderly : locked.Orderly) {number : Nat}
    {result : PollResult} (settled : System.Settled result locked.system number)
    (event : LockedEvent) : System.Settled result (locked.step event).system number := by
  cases event with
  | whole event =>
      rcases locked.step_whole event with blocked | stepped
      · rw [blocked]
        exact settled
      · rw [stepped]
        exact settled.follow (locked.system.follow_step event)
  | enter other =>
      rcases locked.step_enter other with stays | ⟨task, session, _, there, committing, _, left⟩
      · rw [stays]
        exact settled
      · rw [left]
        exact settled_finishPoller settled there committing
  | save =>
      rcases locked.step_save with stays | ⟨holder, error, held, finished⟩
      · exact settled.of_pollers_eq stays
      · obtain ⟨task, there, committing, _⟩ := orderly.guarded holder held
        exact (settled_finishPoller settled there committing).of_pollers_eq finished
  | leave =>
      rcases locked.step_leave with stays | ⟨other, session, held, given⟩
      · rw [stays]
        exact settled
      · obtain ⟨task, there, committing, _⟩ := orderly.guarded _ held
        have finished : System.Settled result
            (locked.system.finishPoller other (.loggedIn session.profile)) number :=
          settled_finishPoller settled there committing
        rw [given]
        exact finished.of_pollers_eq rfl

theorem settled_run {locked : LockedSystem} (orderly : locked.Orderly) {number : Nat}
    {result : PollResult} (settled : System.Settled result locked.system number)
    (events : List LockedEvent) : System.Settled result (locked.run events).system number := by
  induction events generalizing locked with
  | nil => exact settled
  | cons event events ih => exact ih (orderly_step orderly event) (settled_step orderly settled event)

/-- A poller that is reported as logged in at the end of a run was so at its beginning, or has
signed somebody in. -/
theorem exists_signsIn_of_ended {locked : LockedSystem} (orderly : locked.Orderly)
    {events : List LockedEvent} {number : Nat} {profile : Profile}
    (ended : (locked.run events).system.Ended number (.loggedIn profile)) :
    locked.system.Ended number (.loggedIn profile) ∨
      ∃ before event after, events = before ++ event :: after ∧
        (locked.run before).SignsIn number event profile := by
  induction events generalizing locked with
  | nil => exact .inl ended
  | cons event events ih =>
      rcases ih (orderly_step orderly event) ended with first | ⟨before, other, after, split, signsIn⟩
      · -- If it was not so before this event, then this event is its login.
        by_cases already : locked.system.Ended number (.loggedIn profile)
        · exact .inl already
        · have logsIn : locked.LogsIn number event profile := ⟨already, first⟩
          exact .inr ⟨[], event, events, rfl, logsIn.signsIn orderly⟩
      · exact .inr ⟨event :: before, other, after, by rw [split]; rfl, signsIn⟩

theorem exists_drops {locked : LockedSystem} {events : List LockedEvent}
    (held : locked.system.controller.session.isAuthenticated = true)
    (anonymous : (locked.run events).system.controller.session = .anonymous) :
    ∃ before event after, events = before ++ event :: after ∧ (locked.run before).Drops event := by
  induction events generalizing locked with
  | nil =>
      have none : locked.system.controller.session = .anonymous := anonymous
      rw [none] at held
      contradiction
  | cons event events ih =>
      cases next : (locked.step event).system.controller.session with
      | anonymous => exact ⟨[], event, events, rfl, held, next⟩
      | authenticated session =>
          have heldAfter : (locked.step event).system.controller.session.isAuthenticated = true := by
            rw [next]
            rfl
          obtain ⟨before, other, after, split, drops⟩ := ih heldAfter anonymous
          exact ⟨event :: before, other, after, by rw [split]; rfl, drops⟩

/-- In every reachable state a poller changes the controller only while nobody is signed in
and it has not been cancelled, so that pollers leave whoever is signed in alone; between the
logins of any two pollers the session has been dropped; and a poller is reported as logged in
exactly if what it did has signed somebody in with that profile. -/
theorem pollers_give_way (client : Client) (store : Backing) (later : Refusal)
    (events : List LockedEvent) :
    let begun := LockedSystem.start client store later
    let now := begun.run events
    (∀ number event, now.Acts number event →
        (now.step event).system.controller ≠ now.system.controller →
        now.system.controller.session = .anonymous ∧
          ∃ task, now.system.poller? number = some task ∧ task.poller.cancelled = false) ∧
      (∀ session further, now.system.controller.session = .authenticated session →
        (∀ event ∈ further, event.isPolling = true) →
        (now.run further).system.controller = now.system.controller) ∧
      (∀ first second profile profile' event event' between, now.LogsIn first event profile →
        ((now.step event).run between).LogsIn second event' profile' →
        ∃ before drop after, between = before ++ drop :: after ∧
          ((now.step event).run before).Drops drop) ∧
      ∀ number task profile, now.system.poller? number = some task →
        (task.poller.phase = .ended (.loggedIn profile) ↔
          ∃ before event after, events = before ++ event :: after ∧
            (begun.run before).SignsIn number event profile) := by
  intro begun now
  have orderlyBegun : begun.Orderly := orderly_start client store later
  have orderly : now.Orderly := orderly_run orderlyBegun events
  refine ⟨?_, ?_, ?_, ?_⟩
  · intro number event acts changed
    exact controller_step_of_acts orderly acts changed
  · intro session further held polling
    exact controller_run_of_isPolling orderly held polling
  · intro first second profile profile' event event' between logsIn logsInLater
    have orderlyLater := orderly_run (orderly_step orderly event) between
    -- The one login leaves someone signed in, the other one needs that nobody is.
    obtain ⟨_, _, session, entered, _⟩ := logsIn.signsIn orderly
    obtain ⟨_, anonymous, _⟩ := logsInLater.signsIn orderlyLater
    exact exists_drops (by rw [entered]; rfl) anonymous
  · intro number task profile there
    constructor
    · intro loggedIn
      rcases exists_signsIn_of_ended orderlyBegun ⟨task, there, loggedIn⟩ with ⟨_, absent, _⟩ | found
      · contradiction
      · exact found
    · rintro ⟨before, event, after, split, signsIn⟩
      have orderlyThen := orderly_run orderlyBegun before
      obtain ⟨_, ended⟩ := signsIn.logsIn orderlyThen
      have settled := settled_run (orderly_step orderlyThen event) ended.settled after
      apply settled.ended task
      have whole : begun.run events = ((begun.run before).step event).run after := by
        rw [split, run_append, run_cons]
      rw [← whole]
      exact there

/-- Of two pollers whose tickets have been redeemed the first to take the lock logs in; the
other one finds the lock taken and is too late when it is free again. -/
theorem first_poller_prevails :
    let redeem (number : Nat) : List Event :=
      [.poll number .begin, .poll number .ask, .poll number (.receive (.redemptionOf "token")),
        .poll number (.receive (.reportOf 0))]
    let started : List Event := [.startPolling "first" 1000, .startPolling "second" 1000]
    let events := (started ++ redeem 0 ++ redeem 1).map .whole ++
      [.enter 0, .enter 1, .save, .leave, .enter 1]
    let begun := start (.ofBase "http://localhost") (.memory .empty) {}
    let ended := begun.run events
    let session := Controller.sessionOf "token"
    ended.system.controller.session = .authenticated session ∧
      (ended.system.poller? 1).map (·.poller.phase) = some (.ended .superseded) ∧
      ∃ before event after, events = before ++ event :: after ∧
        (begun.run before).SignsIn 0 event session.profile := by
  intro redeem started events begun ended session
  have facts : ended.system.controller.session = .authenticated session ∧
      (ended.system.poller? 1).map (·.poller.phase) = some (.ended .superseded) ∧
      ended.system.poller? 0 =
        some ⟨⟨"first", 1000, false, .ended (.loggedIn session.profile)⟩, .handle⟩ := by
    decide +kernel
  obtain ⟨entered, superseded, there⟩ := facts
  have reported := (pollers_give_way (.ofBase "http://localhost") (.memory .empty) {} events).2.2.2
    0 _ session.profile there
  exact ⟨entered, superseded, reported.mp rfl⟩

end LockedSystem

end SignIn
