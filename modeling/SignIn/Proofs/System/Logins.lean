import SignIn.Proofs.System.Calls
import SignIn.Proofs.System.Cancellation
import SignIn.Proofs.System.Endings

/-!
# Logins of pollers

While a poller has the lock nobody signs in or out, so a poller that takes the lock when
nobody is signed in finds it so until its own session is entered.  An event is the login of
one poller, which is then reported as logged in, or no poller signs anybody in.
-/

namespace SignIn

namespace System

theorem account_hear (system : System) (request : Option Request) {answer : Answer}
    (refused : answer.account.toOption.isSome = false) :
    ∃ error, (system.hear request answer).2.account = .error error := by
  cases request with
  | none => exact ⟨.transport, rfl⟩
  | some request =>
      cases reported : answer.account with
      | error error => exact ⟨error, reported⟩
      | ok account => simp [reported, Except.toOption] at refused

theorem session_step_of_unlocked {system : System} {event : Event}
    (unlocked : system.locks event = false) :
    (system.step event).controller.session = system.controller.session := by
  cases event with
  | refuse refusal => rfl
  | beginTokenLogin token => rfl
  | startPolling ticket interval => rfl
  | openPrompt interval => rfl
  | beginLinkLogin input =>
      exact congrArg Controller.session (quiet_beginLinkLogin system input).controller
  | handle number action =>
      exact congrArg Controller.session (quiet_handle system number action).controller
  | prompt number action =>
      exact congrArg Controller.session (quiet_prompt system number action).controller
  | poll number action =>
      have apart : action ≠ .commit := by
        rintro rfl
        simp [locks] at unlocked
      exact congrArg Controller.session (system.quiet_poll apart).controller
  | endTokenLogin number answer =>
      cases waits : system.pending? (.tokenLogin number) with
      | none =>
          have absent : system.tokenLogins[number]?.join = none := waits
          simp only [step, endTokenLogin, absent]
      | some token =>
          obtain ⟨error, refused⟩ :=
            system.account_hear (system.client.accountRequest? token) unlocked
          have ended := system.controller_endTokenLogin waits answer
          rw [refused, Controller.finishTokenLogin] at ended
          exact congrArg Controller.session ended
  | login session => simp [locks] at unlocked
  | loginIfAnonymous cancelled session => simp [locks] at unlocked
  | logout => simp [locks] at unlocked
  | reload later => simp [locks] at unlocked
  | restart later => simp [locks] at unlocked
  | beginValidation => simp [locks] at unlocked
  | endValidation number answer => simp [locks] at unlocked

end System

namespace LockedSystem

/-- Whoever has the lock is a poller that may log in, and nobody is signed in. -/
structure Orderly (locked : LockedSystem) : Prop where
  guarded : locked.Guarded
  anonymous : locked.holder.isSome = true → locked.system.controller.session = .anonymous

theorem orderly_start (client : Client) (store : Backing) (later : Refusal) :
    (start client store later).Orderly where
  guarded := guarded_of_free rfl
  anonymous held := by simp [start] at held

theorem step_whole (locked : LockedSystem) (event : Event) :
    (locked.step (.whole event)).system = locked.system ∨
      (locked.step (.whole event)).system = locked.system.step event := by
  simp only [step, whole]
  split
  · exact .inr rfl
  · split
    · exact .inl rfl
    · exact .inr rfl

theorem session_save (locked : LockedSystem) :
    (locked.step .save).system.controller.session = locked.system.controller.session := by
  simp only [step, save]
  split
  · split <;> rfl
  · rfl

theorem anonymous_whole {locked : LockedSystem} (orderly : locked.Orderly) (event : Event)
    (held : (locked.whole event).holder.isSome = true) :
    (locked.whole event).system.controller.session = .anonymous := by
  unfold whole at held ⊢
  split at held
  · simp at held
  · split at held
    · rename_i blocked
      rw [if_pos blocked]
      exact orderly.anonymous held
    · rename_i free
      rw [if_neg free]
      have unlocked : locked.system.locks event = false := by simpa [held] using free
      exact (System.session_step_of_unlocked unlocked).trans (orderly.anonymous held)

theorem anonymous_enter {locked : LockedSystem} (orderly : locked.Orderly) (number : Nat)
    (held : (locked.enter number).holder.isSome = true) :
    (locked.enter number).system.controller.session = .anonymous := by
  rw [controller_enter]
  cases session : locked.system.controller.session with
  | anonymous => rfl
  | authenticated current =>
      -- Nobody takes the lock now, so somebody has had it.
      have before : locked.holder.isSome = true := by
        unfold enter at held
        split at held
        · assumption
        · split at held
          · exact held
          · split at held
            · split at held
              · exact held
              · rw [session, Session.isAuthenticated, if_pos rfl] at held
                exact held
            · exact held
      rw [← session]
      exact orderly.anonymous before

theorem anonymous_save {locked : LockedSystem} (orderly : locked.Orderly)
    (held : locked.save.holder.isSome = true) :
    (locked.step .save).system.controller.session = .anonymous := by
  rw [session_save]
  apply orderly.anonymous
  unfold save at held
  split at held
  · rename_i found
    rw [found]
    rfl
  · exact held

theorem anonymous_leave {locked : LockedSystem} (orderly : locked.Orderly)
    (held : locked.leave.holder.isSome = true) :
    locked.leave.system.controller.session = .anonymous := by
  unfold leave at held ⊢
  split at held
  · simp at held
  · exact orderly.anonymous held

theorem orderly_step {locked : LockedSystem} (orderly : locked.Orderly) (event : LockedEvent) :
    (locked.step event).Orderly where
  guarded := guarded_step orderly.guarded event
  anonymous held := by
    cases event with
    | whole event => exact anonymous_whole orderly event held
    | enter number => exact anonymous_enter orderly number held
    | save => exact anonymous_save orderly held
    | leave => exact anonymous_leave orderly held

theorem orderly_run {locked : LockedSystem} (orderly : locked.Orderly)
    (events : List LockedEvent) : (locked.run events).Orderly := by
  induction events generalizing locked with
  | nil => exact orderly
  | cons event events ih => exact ih (orderly_step orderly event)

/-- A poller changes the controller only while nobody is signed in and it has not been
cancelled. -/
theorem controller_step_of_acts {locked : LockedSystem} (orderly : locked.Orderly)
    {number : Nat} {event : LockedEvent} (acts : locked.Acts number event)
    (changed : (locked.step event).system.controller ≠ locked.system.controller) :
    locked.system.controller.session = .anonymous ∧
      ∃ task, locked.system.poller? number = some task ∧ task.poller.cancelled = false := by
  -- Whoever has the lock has found nobody signed in, and nobody can sign in meanwhile.
  cases acts with
  | whole action =>
      rcases locked.step_whole (.poll number action) with blocked | stepped
      · exact absurd (congrArg System.controller blocked) changed
      · rcases locked.system.poll_cases number action with ⟨same, _⟩ | attempt
        · exact absurd ((congrArg System.controller stepped).trans same) changed
        · cases attempt with
          | entered free => exact ⟨free.anonymous, free.task, free.there, free.uncancelled⟩
          | missed free => exact ⟨free.anonymous, free.task, free.there, free.uncancelled⟩
  | enter => exact absurd (controller_enter locked number) changed
  | save held mine =>
      subst mine
      obtain ⟨task, there, _, uncancelled⟩ := orderly.guarded _ held
      exact ⟨orderly.anonymous (by rw [held]; rfl), task, there, uncancelled⟩
  | leave held mine =>
      subst mine
      obtain ⟨task, there, _, uncancelled⟩ := orderly.guarded _ held
      exact ⟨orderly.anonymous (by rw [held]; rfl), task, there, uncancelled⟩

/-- The poller of a number comes to be reported as logged in. -/
def LogsIn (locked : LockedSystem) (number : Nat) (event : LockedEvent) (profile : Profile) :
    Prop :=
  ¬ locked.system.Ended number (.loggedIn profile) ∧
    (locked.step event).system.Ended number (.loggedIn profile)

/-- By what the poller of a number does someone with a profile is signed in, where nobody
was. -/
def SignsIn (locked : LockedSystem) (number : Nat) (event : LockedEvent) (profile : Profile) :
    Prop :=
  locked.Acts number event ∧ locked.system.controller.session = .anonymous ∧
    ∃ session, (locked.step event).system.controller.session = .authenticated session ∧
      session.profile = profile

theorem ended_finishPoller {system : System} {number other : Nat} {result given : PollResult}
    (ended : (system.finishPoller other given).Ended number result) :
    (other = number ∧ given = result) ∨ system.Ended number result := by
  unfold System.finishPoller at ended
  split at ended
  · exact .inr ended
  · rename_i found
    obtain ⟨task, there, phase⟩ := ended
    rcases System.join_getElem?_set_cases found there with ⟨rfl, rfl⟩ | still
    · exact .inl ⟨rfl, by simpa [Poller.finish] using phase⟩
    · exact .inr ⟨task, still, phase⟩

theorem ended_of_finishPoller {system : System} {number : Nat} {task : PollTask}
    (there : system.poller? number = some task) (result : PollResult) :
    (system.finishPoller number result).Ended number result := by
  rw [finishPoller_of_there there]
  exact ⟨_, System.poller?_withPoller (System.number_lt_of_poller? there) _, rfl⟩

theorem not_ended_of_committing {system : System} {number : Nat} {task : PollTask}
    {session : SignedIn} (there : system.poller? number = some task)
    (committing : task.poller.phase = .committing session) (result : PollResult) :
    ¬ system.Ended number result := by
  rintro ⟨found, same, phase⟩
  obtain rfl := Option.some.inj (there.symm.trans same)
  rw [committing] at phase
  contradiction

theorem step_enter (locked : LockedSystem) (number : Nat) :
    (locked.step (.enter number)).system = locked.system ∨
      ∃ task session result, locked.system.poller? number = some task ∧
        task.poller.phase = .committing session ∧ (∀ profile, result ≠ .loggedIn profile) ∧
        (locked.step (.enter number)).system = locked.system.finishPoller number result := by
  simp only [step, enter]
  split
  · exact .inl rfl
  · split
    · exact .inl rfl
    · rename_i task there
      split
      · rename_i session committing
        split
        · exact .inr ⟨task, session, .cancelled, there, committing, by simp, rfl⟩
        · split
          · exact .inr ⟨task, session, .superseded, there, committing, by simp, rfl⟩
          · exact .inl rfl
      · exact .inl rfl

theorem step_save (locked : LockedSystem) :
    (locked.step .save).system.pollers = locked.system.pollers ∨
      ∃ holder error, locked.holder = some holder ∧
        (locked.step .save).system.pollers =
          (locked.system.finishPoller holder.number (.failed (.store error))).pollers := by
  simp only [step, save]
  split
  · rename_i number session held
    split
    · rename_i store error _
      exact .inr ⟨_, error, held, rfl⟩
    · exact .inl rfl
  · exact .inl rfl

theorem step_leave (locked : LockedSystem) :
    locked.step .leave = locked ∨
      ∃ number session, locked.holder = some ⟨number, session, true⟩ ∧
        (locked.step .leave).system =
          (locked.system.finishPoller number (.loggedIn session.profile)).commit
            (locked.system.controller.become (.authenticated session)) session := by
  simp only [step, leave]
  split
  · rename_i number session held
    exact .inr ⟨number, session, held, rfl⟩
  · exact .inl rfl

/-- The poller of a number logs in: it had not ended and nobody was signed in; now its session
is, and no other poller has come to be reported as logged in. -/
structure Login (locked : LockedSystem) (number : Nat) (event : LockedEvent)
    (session : SignedIn) : Prop where
  acts : locked.Acts number event
  unended : ∀ result, ¬ locked.system.Ended number result
  anonymous : locked.system.controller.session = .anonymous
  entered : (locked.step event).system.controller.session = .authenticated session
  ended : (locked.step event).system.Ended number (.loggedIn session.profile)
  others : ∀ other profile, number ≠ other →
    (locked.step event).system.Ended other (.loggedIn profile) →
    locked.system.Ended other (.loggedIn profile)

/-- No poller comes to be reported as logged in, and none signs anybody in. -/
structure Idle (locked : LockedSystem) (event : LockedEvent) : Prop where
  ended : ∀ number profile, (locked.step event).system.Ended number (.loggedIn profile) →
    locked.system.Ended number (.loggedIn profile)
  anonymous : ∀ number, locked.Acts number event →
    locked.system.controller.session = .anonymous →
    (locked.step event).system.controller.session = .anonymous

theorem login_or_idle_poll {locked : LockedSystem} {number : Nat} {action : PollAction}
    (stepped : (locked.step (.whole (.poll number action))).system =
      locked.system.poll number action) :
    (∃ session, locked.Login number (.whole (.poll number action)) session) ∨
      locked.Idle (.whole (.poll number action)) := by
  rcases locked.system.poll_cases number action with ⟨left, reported⟩ | attempt
  · refine .inr ⟨?_, ?_⟩
    · intro other profile ended
      rw [stepped] at ended
      by_cases mine : number = other
      · subst mine
        exact reported profile ended
      · exact locked.system.ended_poll_of_ne mine ended
    · intro _ _ anonymous
      rw [stepped, left]
      exact anonymous
  · cases attempt with
    | entered free saved now ended =>
        refine .inl ⟨free.session, .whole action, ?_, free.anonymous, ?_, ?_, ?_⟩
        · exact not_ended_of_committing free.there free.committing
        · rw [stepped, now]
          rfl
        · rw [stepped]
          exact ended
        · intro other profile apart later
          rw [stepped] at later
          exact locked.system.ended_poll_of_ne apart later
    | missed free unsaved now ended =>
        refine .inr ⟨?_, ?_⟩
        · intro other profile later
          rw [stepped] at later
          by_cases mine : number = other
          · subst mine
            simpa using later.unique ended
          · exact locked.system.ended_poll_of_ne mine later
        · intro _ _ anonymous
          rw [stepped, now]
          exact anonymous

theorem login_or_idle_leave {locked : LockedSystem} (orderly : locked.Orderly) :
    (∃ number session, locked.Login number .leave session) ∨ locked.Idle .leave := by
  rcases locked.step_leave with stays | ⟨number, session, held, given⟩
  · refine .inr ⟨?_, ?_⟩
    · rw [stays]
      exact fun number profile ended => ended
    · rw [stays]
      exact fun number acts anonymous => anonymous
  · obtain ⟨task, there, committing, _⟩ := orderly.guarded _ held
    refine .inl ⟨number, session, .leave held rfl, not_ended_of_committing there committing,
      orderly.anonymous (by rw [held]; rfl), ?_, ?_, ?_⟩
    · rw [given]
      rfl
    · rw [given]
      exact ended_of_finishPoller there _
    · intro other profile apart later
      rw [given] at later
      rcases ended_finishPoller later with ⟨same, _⟩ | before
      · exact absurd same apart
      · exact before

/-- What an event does: one poller logs in, or none does. -/
theorem login_or_idle {locked : LockedSystem} (orderly : locked.Orderly) (event : LockedEvent) :
    (∃ number session, locked.Login number event session) ∨ locked.Idle event := by
  cases event with
  | whole event =>
      rcases locked.step_whole event with blocked | stepped
      · refine .inr ⟨?_, ?_⟩
        · rw [blocked]
          exact fun number profile ended => ended
        · rw [blocked]
          exact fun number acts anonymous => anonymous
      · cases event with
        | poll number action =>
            rcases login_or_idle_poll stepped with ⟨session, login⟩ | idle
            · exact .inl ⟨number, session, login⟩
            · exact .inr idle
        | _ =>
            refine .inr ⟨?_, ?_⟩
            · intro number profile ended
              rw [stepped] at ended
              exact System.ended_of_step (by simp) ended
            · intro number acts
              cases acts
  | enter other =>
      refine .inr ⟨?_, ?_⟩
      · intro number profile ended
        rcases locked.step_enter other with same | ⟨_, _, result, _, _, refused, finished⟩
        · rw [same] at ended
          exact ended
        · rw [finished] at ended
          rcases ended_finishPoller ended with ⟨_, loggedIn⟩ | before
          · exact absurd loggedIn (refused profile)
          · exact before
      · intro _ _ anonymous
        have same : (locked.step (.enter other)).system.controller = locked.system.controller :=
          controller_enter locked other
        rw [same]
        exact anonymous
  | save =>
      refine .inr ⟨?_, ?_⟩
      · rintro number profile ⟨task, there, phase⟩
        have found : (locked.step .save).system.pollers[number]?.join = some task := there
        rcases locked.step_save with same | ⟨holder, error, held, finished⟩
        · rw [same] at found
          exact ⟨task, found, phase⟩
        · rw [finished] at found
          rcases ended_finishPoller ⟨task, found, phase⟩ with ⟨_, failed⟩ | before
          · contradiction
          · exact before
      · intro _ _ anonymous
        rw [session_save]
        exact anonymous
  | leave => exact login_or_idle_leave orderly

theorem Acts.unique {locked : LockedSystem} {first second : Nat} {event : LockedEvent}
    (actsFirst : locked.Acts first event) (actsSecond : locked.Acts second event) :
    first = second := by
  cases actsFirst with
  | whole action => cases actsSecond with | whole => rfl
  | enter => cases actsSecond with | enter => rfl
  | save held mine =>
      cases actsSecond with
      | save heldToo mineToo =>
          obtain rfl := Option.some.inj (held.symm.trans heldToo)
          exact mine.symm.trans mineToo
  | leave held mine =>
      cases actsSecond with
      | leave heldToo mineToo =>
          obtain rfl := Option.some.inj (held.symm.trans heldToo)
          exact mine.symm.trans mineToo

theorem SignsIn.logsIn {locked : LockedSystem} (orderly : locked.Orderly) {number : Nat}
    {event : LockedEvent} {profile : Profile} (signsIn : locked.SignsIn number event profile) :
    locked.LogsIn number event profile := by
  obtain ⟨acts, anonymous, session, entered, rfl⟩ := signsIn
  rcases login_or_idle orderly event with ⟨other, current, login⟩ | idle
  · obtain rfl := acts.unique login.acts
    obtain rfl : session = current := by simpa [entered] using login.entered
    exact ⟨login.unended _, login.ended⟩
  · rw [idle.anonymous number acts anonymous] at entered
    contradiction

theorem LogsIn.signsIn {locked : LockedSystem} (orderly : locked.Orderly) {number : Nat}
    {event : LockedEvent} {profile : Profile} (logsIn : locked.LogsIn number event profile) :
    locked.SignsIn number event profile := by
  obtain ⟨notBefore, after⟩ := logsIn
  rcases login_or_idle orderly event with ⟨other, session, login⟩ | idle
  · by_cases mine : other = number
    · subst mine
      obtain rfl : profile = session.profile := by simpa using after.unique login.ended
      exact ⟨login.acts, login.anonymous, session, login.entered, rfl⟩
    · exact absurd (login.others number profile mine after) notBefore
  · exact absurd (idle.ended number profile after) notBefore

end LockedSystem

end SignIn
