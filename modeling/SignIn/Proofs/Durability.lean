import SignIn.Proofs.Poller

/-!
# Logins that last

A login that has taken effect is found again by whoever reads the store next, be it a new
controller or the same one, and whatever the store held before.  The one exception is a
login with an empty bearer: it is accepted and stored, but an empty bearer counts as
absent when the store is read, so that what is left looks like parts of a session and is
removed.
-/

namespace SignIn

namespace Controller

/-- The ways in which a login takes effect: each operation that can log in has reported
success, and this is the session that it was given or has been told. -/
inductive Commits (before : Controller) (session : SignedIn) (after : Controller) : Prop where
  | login (result : before.login session = (after, .ok ()))
  | loginIfAnonymous (cancelled : Bool)
      (result : before.loginIfAnonymous cancelled session = (after, .ok .committed))
  | tokenLogin (token : String) (account : Account)
      (whole : session = ⟨token, account.profile, account.reputation⟩)
      (result : before.finishTokenLogin token (.ok account) = (after, .ok ()))
  | poller (poller ended : Poller) (profile : Profile)
      (phase : poller.phase = .committing session)
      (result : poller.commit before = (after, ended))
      (loggedIn : ended.phase = .ended (.loggedIn profile))

/-- Every login that takes effect has saved its session and entered it. -/
theorem Commits.entered {before after : Controller} {session : SignedIn}
    (commits : before.Commits session after) :
    (before.store.save session).2 = .ok () ∧ after = before.enter session := by
  cases commits with
  | login result =>
      rcases before.login_cases session with ⟨saved, other⟩ | ⟨_, _, other⟩
      · rw [other] at result
        exact ⟨saved, (Prod.mk.inj result).1.symm⟩
      · simp [other] at result
  | loginIfAnonymous cancelled result =>
      rcases before.loginIfAnonymous_cases cancelled session with
        ⟨_, other⟩ | ⟨_, other⟩ | ⟨_, _, ⟨saved, other⟩ | ⟨_, _, other⟩⟩
      · simp [other] at result
      · simp [other] at result
      · rw [other] at result
        exact ⟨saved, (Prod.mk.inj result).1.symm⟩
      · simp [other] at result
  | tokenLogin token account whole result =>
      subst whole
      rcases before.finishTokenLogin_cases token (.ok account) with
        ⟨_, other⟩ | ⟨found, same, ⟨saved, other⟩ | ⟨_, _, other⟩⟩
      · simp [other] at result
      · obtain rfl : account = found := by simpa using same
        rw [other] at result
        exact ⟨saved, (Prod.mk.inj result).1.symm⟩
      · simp [other] at result
  | poller poller ended profile phase result loggedIn =>
      rcases poller.commit_cases before with
        ⟨_, other⟩ | ⟨found, committing, _, _, ⟨saved, other⟩ | ⟨_, _, other⟩⟩
      · rw [result] at other
        simp only at other
        rcases other with same | same | same
        · simp [same, phase] at loggedIn
        · simp [same, Poller.finish] at loggedIn
        · simp [same, Poller.finish] at loggedIn
      · obtain rfl : session = found := by simpa [phase] using committing
        rw [other] at result
        exact ⟨saved, (Prod.mk.inj result).1.symm⟩
      · obtain ⟨_, rfl⟩ := Prod.mk.inj (result.symm.trans other)
        simp [Poller.finish] at loggedIn

/-- What a new controller finds in a store that holds a session. -/
theorem session_start_of_holds {store : Backing} {session : SignedIn}
    (holds : store.entries.Holds session) (readable : store.refusal.read = false)
    (client : Client) :
    (start client store).session =
      if session.bearer = "" then .anonymous else .authenticated session := by
  rw [start, Backing.restore_load_of_holds holds readable]
  by_cases empty : session.bearer = ""
  · rw [if_pos empty, if_pos empty]
    rfl
  · rw [if_neg empty, if_neg empty]
    rfl

theorem session_reload_of_holds {controller : Controller} {session : SignedIn}
    (holds : controller.store.entries.Holds session)
    (readable : controller.store.refusal.read = false) :
    controller.reload.session =
      if session.bearer = "" then .anonymous else .authenticated session := by
  rw [reload, Backing.restore_load_of_holds holds readable]
  by_cases empty : session.bearer = ""
  · rw [if_pos empty, if_pos empty]
    rfl
  · rw [if_neg empty, if_neg empty]
    show (if controller.session = .authenticated session then controller
      else controller.become (.authenticated session)).session = .authenticated session
    split
    · assumption
    · rfl

/-- A login that has taken effect is found again in the store that can be read, by a new
controller and by the same one, exactly if its bearer is not empty; otherwise nobody is
signed in any more. -/
theorem session_after_commit {before after : Controller} {session : SignedIn}
    (commits : before.Commits session after) (readable : after.store.refusal.read = false)
    (client : Client) :
    (start client after.store).session =
        (if session.bearer = "" then .anonymous else .authenticated session) ∧
      after.reload.session =
        (if session.bearer = "" then .anonymous else .authenticated session) := by
  obtain ⟨saved, rfl⟩ := commits.entered
  have holds : (before.enter session).store.entries.Holds session :=
    Backing.holds_save (Prod.ext rfl saved)
  exact ⟨session_start_of_holds holds readable client, session_reload_of_holds holds readable⟩

/-- Logging in with a token over an empty store is found again. -/
theorem session_after_first_login :
    fresh.login (sessionOf "token") = (fresh.enter (sessionOf "token"), .ok ()) ∧
      (start fresh.client (fresh.enter (sessionOf "token")).store).session =
        .authenticated (sessionOf "token") ∧
      (fresh.enter (sessionOf "token")).reload.session =
        .authenticated (sessionOf "token") := by
  have commits : fresh.Commits (sessionOf "token") (fresh.enter (sessionOf "token")) :=
    .login rfl
  have lasts := session_after_commit commits rfl fresh.client
  have notEmpty : (sessionOf "token").bearer ≠ "" := by decide
  rw [if_neg notEmpty] at lasts
  exact ⟨rfl, lasts⟩

/-- Not every login that has taken effect is found again: one with an empty bearer is
not. -/
theorem not_forall_session_after_commit :
    ¬ ∀ (before after : Controller) (session : SignedIn), before.Commits session after →
      after.store.refusal.read = false →
      (start before.client after.store).session = .authenticated session ∧
        after.reload.session = .authenticated session := by
  intro lasting
  have holds : (fresh.enter (sessionOf "")).store.entries.Holds (sessionOf "") :=
    Entries.holds_withSession .empty (sessionOf "")
  have found := (lasting fresh (fresh.enter (sessionOf "")) (sessionOf "") (.login rfl) rfl).1
  have empty : (sessionOf "").bearer = "" := rfl
  rw [session_start_of_holds holds rfl, if_pos empty] at found
  contradiction

end Controller

end SignIn
