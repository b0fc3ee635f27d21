import SignIn.Proofs.Session
import SignIn.Poller

/-!
# What a poller does to a controller

A poller touches the controller only when it logs in.  That it does only if it has not
been cancelled and nobody is signed in, and it ends in any case.  A poller that has been
cancelled stays so.
-/

namespace SignIn

namespace Poller

/-- Logging in leaves the controller as it is, or the poller was about to log in and was
not cancelled, nobody was signed in, and it is a login. -/
theorem commit_cases (poller : Poller) (controller : Controller) :
    ((poller.commit controller).1 = controller ∧
        ((poller.commit controller).2 = poller ∨
          (poller.commit controller).2 = poller.finish .cancelled ∨
          (poller.commit controller).2 = poller.finish .superseded)) ∨
      ∃ session, poller.phase = .committing session ∧ poller.cancelled = false ∧
        controller.session = .anonymous ∧
        (((controller.store.save session).2 = .ok () ∧
            poller.commit controller =
              (controller.enter session, poller.finish (.loggedIn session.profile))) ∨
          ∃ error, (controller.store.save session).2 = .error error ∧
            poller.commit controller =
              (controller.miss session, poller.finish (.failed (.store error)))) := by
  unfold commit
  cases phase : poller.phase with
  | committing session =>
      rcases controller.loginIfAnonymous_cases poller.cancelled session with
        ⟨_, result⟩ | ⟨_, result⟩ | ⟨free, anonymous, ⟨saved, result⟩ | ⟨error, unsaved, result⟩⟩
      · exact .inl (by simp [result])
      · exact .inl (by simp [result])
      · exact .inr ⟨session, rfl, free, anonymous, .inl ⟨saved, by simp [result]⟩⟩
      · exact .inr ⟨session, rfl, free, anonymous, .inr ⟨error, unsaved, by simp [result]⟩⟩
  | _ => exact .inl ⟨rfl, .inl rfl⟩

/-- What can become of a poller in one step: it acts, or it is cancelled, or neither.  It
takes the lock to begin, to log in and to be cancelled. -/
inductive Moves (poller : Poller) : Bool → Poller → Prop where
  | stay (locks : Bool) : Moves poller locks poller
  | begin (authenticated : Bool) : Moves poller true (poller.begin authenticated)
  | noticeCancel (locks : Bool) : Moves poller locks poller.noticeCancel
  | noticeLogin (locks watched : Bool) : Moves poller locks (poller.noticeLogin watched)
  | ask (locks : Bool) : Moves poller locks poller.ask
  | receive (locks : Bool) (answer : Answer) : Moves poller locks (poller.receive answer)
  | commit (controller : Controller) : Moves poller true (poller.commit controller).2
  | cancel : Moves poller true poller.cancel

theorem Moves.cancelled {poller after : Poller} {locks : Bool}
    (moves : poller.Moves locks after)
    (cancelled : poller.cancelled = true) : after.cancelled = true := by
  cases moves with
  | stay => exact cancelled
  | begin authenticated =>
      unfold Poller.begin
      split
      · split <;> exact cancelled
      · exact cancelled
  | noticeCancel =>
      unfold Poller.noticeCancel
      split <;> exact cancelled
  | noticeLogin _ watched =>
      unfold Poller.noticeLogin
      split <;> exact cancelled
  | ask =>
      unfold Poller.ask
      split <;> exact cancelled
  | receive _ answer =>
      unfold Poller.receive
      split
      · split <;> exact cancelled
      · split <;> exact cancelled
      · exact cancelled
  | commit controller =>
      unfold Poller.commit
      split
      · split <;> exact cancelled
      · exact cancelled
  | cancel => rfl

theorem Moves.ticket {poller after : Poller} {locks : Bool} (moves : poller.Moves locks after) :
    after.ticket = poller.ticket := by
  cases moves with
  | stay => rfl
  | begin authenticated =>
      unfold Poller.begin
      split
      · split <;> rfl
      · rfl
  | noticeCancel =>
      unfold Poller.noticeCancel
      split <;> rfl
  | noticeLogin _ watched =>
      unfold Poller.noticeLogin
      split <;> rfl
  | ask =>
      unfold Poller.ask
      split <;> rfl
  | receive _ answer =>
      unfold Poller.receive
      split
      · split <;> rfl
      · split <;> rfl
      · rfl
  | commit controller =>
      unfold Poller.commit
      split
      · split <;> rfl
      · rfl
  | cancel => rfl

/-- A poller that is reported as logged in was so before, or it was about to log in and had
not been cancelled. -/
theorem Moves.loggedIn_cases {poller after : Poller} {locks : Bool}
    (moves : poller.Moves locks after) {profile : Profile}
    (loggedIn : after.phase = .ended (.loggedIn profile)) :
    poller.phase = .ended (.loggedIn profile) ∨
      ∃ session, poller.phase = .committing session ∧ poller.cancelled = false := by
  cases moves with
  | stay => exact .inl loggedIn
  | begin authenticated =>
      unfold Poller.begin at loggedIn
      split at loggedIn
      · split at loggedIn <;> simp [finish] at loggedIn
      · exact .inl loggedIn
  | noticeCancel =>
      unfold Poller.noticeCancel at loggedIn
      split at loggedIn
      · simp [finish] at loggedIn
      · exact .inl loggedIn
  | noticeLogin _ watched =>
      unfold Poller.noticeLogin at loggedIn
      split at loggedIn
      · simp [finish] at loggedIn
      · exact .inl loggedIn
  | ask =>
      unfold Poller.ask at loggedIn
      split at loggedIn
      · simp at loggedIn
      · exact .inl loggedIn
  | receive _ answer =>
      unfold Poller.receive at loggedIn
      split at loggedIn
      · split at loggedIn <;> simp [finish] at loggedIn
      · split at loggedIn <;> simp [finish] at loggedIn
      · exact .inl loggedIn
  | commit controller =>
      rcases poller.commit_cases controller with
        ⟨_, same | ended | ended⟩ | ⟨session, committing, free, _⟩
      · rw [same] at loggedIn
        exact .inl loggedIn
      · simp [ended, finish] at loggedIn
      · simp [ended, finish] at loggedIn
      · exact .inr ⟨session, committing, free⟩
  | cancel => exact .inl loggedIn

/-- A poller that has been cancelled does not log in any more. -/
theorem Moves.loggedIn {poller after : Poller} {locks : Bool}
    (moves : poller.Moves locks after)
    (cancelled : poller.cancelled = true) {profile : Profile}
    (loggedIn : after.phase = .ended (.loggedIn profile)) :
    poller.phase = .ended (.loggedIn profile) := by
  rcases moves.loggedIn_cases loggedIn with before | ⟨_, _, free⟩
  · exact before
  · rw [cancelled] at free
    contradiction

theorem Moves.ended {poller after : Poller} {locks : Bool} (moves : poller.Moves locks after)
    {result : PollResult} (ended : poller.phase = .ended result) :
    after.phase = .ended result := by
  cases moves with
  | stay => exact ended
  | begin authenticated => simp [Poller.begin, ended]
  | noticeCancel => simp [Poller.noticeCancel, isWaiting, ended]
  | noticeLogin _ watched => simp [Poller.noticeLogin, isWaiting, ended]
  | ask => simp [Poller.ask, ended]
  | receive _ answer => simp [Poller.receive, ended]
  | commit controller => simp [Poller.commit, ended]
  | cancel => exact ended

/-- A poller that is about to log in does nothing else without the lock. -/
theorem Moves.eq_of_committing {poller after : Poller} (moves : poller.Moves false after)
    {session : SignedIn} (committing : poller.phase = .committing session) :
    after = poller := by
  cases moves with
  | stay => rfl
  | noticeCancel => simp [Poller.noticeCancel, isWaiting, committing]
  | noticeLogin _ watched => simp [Poller.noticeLogin, isWaiting, committing]
  | ask => simp [Poller.ask, committing]
  | receive _ answer => simp [Poller.receive, committing]

theorem begin_of_committing {poller : Poller} {session : SignedIn}
    (committing : poller.phase = .committing session) (authenticated : Bool) :
    poller.begin authenticated = poller := by
  simp [Poller.begin, committing]

/-- A poller that has been cancelled does not touch the controller. -/
theorem commit_of_cancelled {poller : Poller} (cancelled : poller.cancelled = true)
    (controller : Controller) : (poller.commit controller).1 = controller := by
  rcases poller.commit_cases controller with ⟨same, _⟩ | ⟨_, _, free, _⟩
  · exact same
  · rw [cancelled] at free
    contradiction

end Poller

end SignIn
