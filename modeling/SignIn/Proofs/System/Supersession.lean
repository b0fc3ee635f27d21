import SignIn.Proofs.System.Yielding

/-!
# What becomes of a poller when someone else signs in

A poller looks at whether someone is signed in when it begins, while it waits and right
before it logs in, and each look is about that moment only.  Whoever is signed in then ends
the poller for good.  A login that has been followed by a logout before the poller looks
again leaves no trace: the poller goes on, and may log in.
-/

namespace SignIn

/-- The flag tells whether someone is signed in. -/
def Controller.Tells (controller : Controller) : Prop :=
  controller.watched = controller.session.isAuthenticated

namespace Controller

variable {controller : Controller}

theorem Tells.of_same (tells : controller.Tells) {after : Controller}
    (session : after.session = controller.session) (watched : after.watched = controller.watched) :
    after.Tells := by
  rw [Tells, session, watched]
  exact tells

theorem tells_become (controller : Controller) (session : Session) :
    (controller.become session).Tells :=
  rfl

theorem Tells.adopt (tells : controller.Tells) (restored : Restored) :
    (controller.adopt restored).Tells := by
  unfold Controller.adopt
  split
  · split
    · exact tells
    · exact tells_become controller _
  · exact tells_become _ .anonymous

theorem tells_ofRestored (client : Client) (store : Backing) (restored : Restored) :
    (ofRestored client store restored).Tells := by
  cases restored <;> rfl

end Controller

theorem System.tells_of_change {before after : System} (change : Change before after)
    (tells : before.controller.Tells) : after.controller.Tells := by
  cases change with
  | quiet quiet =>
      rw [quiet.controller]
      exact tells
  | refused refusal now =>
      rw [now]
      exact tells.of_same rfl rfl
  | missed session error unsaved now =>
      rw [now]
      exact tells.of_same rfl rfl
  | login session saved now =>
      rw [now]
      exact Controller.tells_become _ _
  | refresh current reputation held accepted saved now =>
      rw [now]
      exact Controller.tells_become _ _
  | logout now =>
      rw [now]
      exact Controller.tells_become _ _
  | reload later now =>
      rw [now]
      have refused : (before.controller.withStore
          (before.controller.store.refuse later)).Tells := tells.of_same rfl rfl
      exact refused.adopt _
  | restart later now =>
      rw [now]
      exact Controller.tells_ofRestored _ _ _

namespace LockedSystem

theorem tells_step {locked : LockedSystem} (tells : locked.system.controller.Tells)
    (event : LockedEvent) : (locked.step event).system.controller.Tells := by
  cases event with
  | whole event =>
      rcases locked.step_whole event with blocked | stepped
      · rw [blocked]
        exact tells
      · rw [stepped]
        exact System.tells_of_change (System.change_step locked.system event) tells
  | enter number =>
      have same : (locked.step (.enter number)).system.controller = locked.system.controller :=
        controller_enter locked number
      rw [same]
      exact tells
  | save =>
      refine tells.of_same (session_save locked) ?_
      simp only [step, save]
      split
      · split <;> rfl
      · rfl
  | leave =>
      rcases locked.step_leave with stays | ⟨number, session, _, given⟩
      · rw [stays]
        exact tells
      · rw [given]
        exact Controller.tells_become _ _

theorem tells_run {locked : LockedSystem} (tells : locked.system.controller.Tells)
    (events : List LockedEvent) : (locked.run events).system.controller.Tells := by
  induction events generalizing locked with
  | nil => exact tells
  | cons event events ih => exact ih (tells_step tells event)

/-- The poller of a number looks at whether someone is signed in. -/
inductive Looks (locked : LockedSystem) (number : Nat) : LockedEvent → Prop where
  | first {task : PollTask} (there : locked.system.poller? number = some task)
      (fresh : task.poller.phase = .fresh) :
      Looks locked number (.whole (.poll number .begin))
  | waiting {task : PollTask} (there : locked.system.poller? number = some task)
      (waits : task.poller.isWaiting = true) :
      Looks locked number (.whole (.poll number .noticeLogin))
  | last {task : PollTask} {session : SignedIn}
      (there : locked.system.poller? number = some task)
      (committing : task.poller.phase = .committing session) :
      Looks locked number (.whole (.poll number .commit))
  | entering {task : PollTask} {session : SignedIn}
      (there : locked.system.poller? number = some task)
      (committing : task.poller.phase = .committing session) :
      Looks locked number (.enter number)

section Looks

variable {locked : LockedSystem} {number : Nat} {event : LockedEvent}

theorem free_of_authenticated (orderly : locked.Orderly)
    (held : locked.system.controller.session.isAuthenticated = true) :
    locked.holder.isSome = false := by
  rw [Bool.eq_false_iff]
  intro taken
  rw [orderly.anonymous taken] at held
  contradiction

/-- While someone is signed in nobody has the lock, so that nothing waits for it. -/
theorem step_whole_of_authenticated (orderly : locked.Orderly)
    (held : locked.system.controller.session.isAuthenticated = true) (event : Event) :
    (locked.step (.whole event)).system = locked.system.step event := by
  simp only [step, whole, free_of_authenticated orderly held]
  split <;> rfl

theorem ended_withPoller_iff {system : System} {task : PollTask} {result : PollResult}
    (there : system.poller? number = some task) (poller : Poller) :
    (system.withPoller number { task with poller }).Ended number result ↔
      poller.phase = .ended result := by
  have now := System.poller?_withPoller (System.number_lt_of_poller? there) { task with poller }
  constructor
  · rintro ⟨later, found, ended⟩
    obtain rfl := Option.some.inj (now.symm.trans found)
    exact ended
  · exact fun ended => ⟨_, now, ended⟩

/-- Whoever looks while someone is signed in ends. -/
theorem ended_of_looks (orderly : locked.Orderly) (tells : locked.system.controller.Tells)
    (looks : locked.Looks number event)
    (held : locked.system.controller.session.isAuthenticated = true) :
    ∃ result, (result = .superseded ∨ result = .cancelled) ∧
      (locked.step event).system.Ended number result := by
  cases looks with
  | @first task there fresh =>
      refine ⟨.superseded, .inl rfl, ?_⟩
      rw [step_whole_of_authenticated orderly held, System.step, System.poll, there]
      refine (ended_withPoller_iff there _).mpr ?_
      rw [Poller.begin, fresh, held]
      rfl
  | @waiting task there waits =>
      refine ⟨.superseded, .inl rfl, ?_⟩
      have watched : locked.system.controller.watched = true := tells.trans held
      rw [step_whole_of_authenticated orderly held, System.step, System.poll, there]
      refine (ended_withPoller_iff there _).mpr ?_
      rw [Poller.noticeLogin, waits, watched]
      rfl
  | @last task session there committing =>
      rw [step_whole_of_authenticated orderly held, System.step, System.poll, there]
      have now := locked.system.poller?_commitPoll there
      rw [Poller.commit, committing] at now
      cases cancelled : task.poller.cancelled with
      | true =>
          simp only [Controller.loginIfAnonymous, cancelled, if_true] at now
          exact ⟨.cancelled, .inr rfl, _, now, rfl⟩
      | false =>
          simp only [Controller.loginIfAnonymous, cancelled, held, Bool.false_eq_true, if_false,
            if_true] at now
          exact ⟨.superseded, .inl rfl, _, now, rfl⟩
  | @entering task session there committing =>
      have free := free_of_authenticated orderly held
      simp only [step, enter, free, there, committing, held, Bool.false_eq_true, if_false, if_true]
      cases cancelled : task.poller.cancelled with
      | true => exact ⟨.cancelled, .inr rfl, ended_of_finishPoller there _⟩
      | false => exact ⟨.superseded, .inl rfl, ended_of_finishPoller there _⟩

theorem Looks.unended (looks : locked.Looks number event) (result : PollResult) :
    ¬ locked.system.Ended number result := by
  rintro ⟨task, there, ended⟩
  cases looks with
  | first found fresh =>
      obtain rfl := Option.some.inj (there.symm.trans found)
      simp [fresh] at ended
  | waiting found waits =>
      obtain rfl := Option.some.inj (there.symm.trans found)
      simp [Poller.isWaiting, ended] at waits
  | last found committing | entering found committing =>
      obtain rfl := Option.some.inj (there.symm.trans found)
      simp [committing] at ended

theorem not_superseded_commit {task : PollTask} {session : SignedIn}
    (anonymous : locked.system.controller.session = .anonymous)
    (committing : task.poller.phase = .committing session) :
    (task.poller.commit locked.system.controller).2.phase ≠ .ended .superseded := by
  rw [Poller.commit, committing]
  rcases locked.system.controller.loginIfAnonymous_cases task.poller.cancelled session with
    ⟨_, result⟩ | ⟨held, _⟩ | ⟨_, _, ⟨_, result⟩ | ⟨error, _, result⟩⟩
  · simp [result, Poller.finish]
  · rw [anonymous] at held
    simp [Session.isAuthenticated] at held
  · simp [result, Poller.finish]
  · simp [result, Poller.finish]

theorem not_superseded_of_looks (tells : locked.system.controller.Tells)
    (looks : locked.Looks number event)
    (anonymous : locked.system.controller.session = .anonymous) :
    ¬ (locked.step event).system.Ended number .superseded := by
  have unended := looks.unended .superseded
  have free : locked.system.controller.session.isAuthenticated = false := by
    rw [anonymous]
    rfl
  cases looks with
  | @first task there fresh =>
      rcases locked.step_whole (.poll number .begin) with blocked | stepped
      · rwa [blocked]
      · rw [stepped, System.step, System.poll, there]
        simp [ended_withPoller_iff there, Poller.begin, fresh, free]
  | @waiting task there waits =>
      rcases locked.step_whole (.poll number .noticeLogin) with blocked | stepped
      · rwa [blocked]
      · have unwatched : locked.system.controller.watched = false := tells.trans free
        rw [stepped, System.step, System.poll, there]
        refine fun ended => unended ⟨task, there, ?_⟩
        simpa [Poller.noticeLogin, unwatched] using (ended_withPoller_iff there _).mp ended
  | @last task session there committing =>
      rcases locked.step_whole (.poll number .commit) with blocked | stepped
      · rwa [blocked]
      · rw [stepped, System.step, System.poll, there]
        rintro ⟨later, found, ended⟩
        obtain rfl := Option.some.inj ((locked.system.poller?_commitPoll there).symm.trans found)
        exact not_superseded_commit anonymous committing ended
  | @entering task session there committing =>
      simp only [step, enter, there, committing, free, Bool.false_eq_true, if_false]
      split
      · exact unended
      · split
        · intro ended
          have cancelled := ended_of_finishPoller there .cancelled
          simpa using ended.unique cancelled
        · exact unended

end Looks

/-- Someone who signs in and out at once leaves all pollers as they are. -/
theorem pollers_login_logout {locked : LockedSystem} (orderly : locked.Orderly)
    (session : SignedIn) :
    let after := locked.run [.whole (.login session), .whole .logout]
    after.system.pollers = locked.system.pollers ∧
      after.system.controller.session = .anonymous := by
  intro after
  cases taken : locked.holder.isSome with
  | true =>
      have blocked : after = locked := by
        simp [after, step, whole, System.locks, taken]
      rw [blocked]
      exact ⟨rfl, orderly.anonymous taken⟩
  | false =>
      have stepped : after.system = (locked.system.login session).step .logout := by
        simp [after, step, whole, taken, System.step]
      rw [stepped]
      exact ⟨System.pollers_login locked.system session, rfl⟩

/-- In every reachable state the look of a poller is decided by whether someone is signed in
at that moment.  If so, the poller ends as superseded, or as cancelled, and whatever happens
afterwards it never comes to be logged in nor signs anybody in.  If not, it is not superseded;
and someone who has signed in and out at once has left all pollers as they were. -/
theorem looks_decide (client : Client) (store : Backing) (later : Refusal)
    (events : List LockedEvent) :
    let now := (LockedSystem.start client store later).run events
    (∀ number event, now.Looks number event →
      now.system.controller.session.isAuthenticated = true →
      (∃ result, (result = .superseded ∨ result = .cancelled) ∧
        (now.step event).system.Ended number result) ∧
      ∀ further, let last := (now.step event).run further
        (∀ profile, ¬ last.system.Ended number (.loggedIn profile)) ∧
          ∀ other profile, ¬ last.SignsIn number other profile) ∧
      (∀ number event, now.Looks number event → now.system.controller.session = .anonymous →
        ¬ (now.step event).system.Ended number .superseded) ∧
      ∀ session, let after := now.run [.whole (.login session), .whole .logout]
        after.system.pollers = now.system.pollers ∧
          after.system.controller.session = .anonymous := by
  intro now
  have orderly : now.Orderly := orderly_run (orderly_start client store later) events
  have tells : now.system.controller.Tells :=
    tells_run (Controller.tells_ofRestored _ _ _) events
  refine ⟨?_, ?_, fun session => pollers_login_logout orderly session⟩
  · intro number event looks held
    obtain ⟨result, early, ended⟩ := ended_of_looks orderly tells looks held
    refine ⟨⟨result, early, ended⟩, fun further => ?_⟩
    have orderlyAfter := orderly_step orderly event
    have other (events : List LockedEvent) (profile : Profile) :
        ¬ ((now.step event).run events).system.Ended number (.loggedIn profile) := by
      rintro ⟨task, there, loggedIn⟩
      have settled := (settled_run orderlyAfter ended.settled events).ended task there
      rcases early with rfl | rfl <;> simp [settled] at loggedIn
    refine ⟨other further, fun last profile signsIn => ?_⟩
    have logsIn := signsIn.logsIn (orderly_run orderlyAfter further)
    apply other (further ++ [last]) profile
    rw [run_append]
    exact logsIn.2
  · intro number event looks anonymous
    exact not_superseded_of_looks tells looks anonymous

/-- A poller that waits while nobody is signed in, and notices it when someone is. -/
theorem waiting_poller_notices :
    let begun := start (.ofBase "http://localhost") (.memory .empty) {}
    let waits := begun.run [.whole (.startPolling "ticket" 0), .whole (.poll 0 .begin)]
    let now := waits.run [.whole (.login (Controller.sessionOf "other"))]
    let look : LockedEvent := .whole (.poll 0 .noticeLogin)
    (waits.Looks 0 look ∧ waits.system.controller.session = .anonymous ∧
        ¬ (waits.step look).system.Ended 0 .superseded) ∧
      now.Looks 0 look ∧ now.system.controller.session.isAuthenticated = true ∧
        ∀ further profile,
          ¬ ((now.step look).run further).system.Ended 0 (.loggedIn profile) := by
  intro begun waits now look
  let task : PollTask := ⟨⟨"ticket", 0, false, .resting⟩, .handle⟩
  have thereFirst : waits.system.poller? 0 = some task := by decide +kernel
  have thereNow : now.system.poller? 0 = some task := by decide +kernel
  have anonymous : waits.system.controller.session = .anonymous := by decide +kernel
  have held : now.system.controller.session.isAuthenticated = true := by decide +kernel
  have looksFirst : waits.Looks 0 look := .waiting thereFirst rfl
  have looksNow : now.Looks 0 look := .waiting thereNow rfl
  have first := (looks_decide (.ofBase "http://localhost") (.memory .empty) {}
    [.whole (.startPolling "ticket" 0), .whole (.poll 0 .begin)]).2.1 0 look looksFirst anonymous
  have last := (looks_decide (.ofBase "http://localhost") (.memory .empty) {}
    [.whole (.startPolling "ticket" 0), .whole (.poll 0 .begin),
      .whole (.login (Controller.sessionOf "other"))]).1 0 look looksNow held
  exact ⟨⟨looksFirst, anonymous, first⟩, looksNow, held, fun further => (last.2 further).1⟩

/-- It is not the case that someone who signs in while a poller is at work keeps it from
logging in: if they sign out again at once, the poller never sees them. -/
theorem not_forall_login_supersedes :
    ¬ ∀ (client : Client) (store : Backing) (later : Refusal) (before after : List LockedEvent)
        (number : Nat) (task : PollTask) (login : LockedEvent) (profile : Profile),
      let waits := (start client store later).run before
      waits.system.poller? number = some task → task.poller.result? = none →
        ¬ waits.Acts number login → waits.system.controller.session = .anonymous →
        (waits.step login).system.controller.session.isAuthenticated = true →
        ¬ ((waits.step login).run after).system.Ended number (.loggedIn profile) := by
  intro supersedes
  let polling : List LockedEvent :=
    [.whole (.poll 0 .begin), .whole (.poll 0 .noticeCancel), .whole (.poll 0 .noticeLogin),
      .whole (.poll 0 .ask), .whole (.poll 0 (.receive (.redemptionOf "token"))),
      .whole (.poll 0 (.receive (.reportOf 0))), .enter 0, .save, .leave]
  have never := supersedes (.ofBase "http://localhost") (.memory .empty) {}
    [.whole (.startPolling "ticket" 0)] (.whole .logout :: polling) 0
    ⟨⟨"ticket", 0, false, .fresh⟩, .handle⟩ (.whole (.login (Controller.sessionOf "other")))
    (Controller.sessionOf "token").profile (by decide +kernel) rfl (by rintro ⟨⟩)
    (by decide +kernel) (by decide +kernel)
  exact never ⟨⟨⟨"ticket", 0, false, .ended (.loggedIn (Controller.sessionOf "token").profile)⟩,
    .handle⟩, by decide +kernel, rfl⟩

end LockedSystem

end SignIn
