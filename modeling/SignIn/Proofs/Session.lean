import SignIn.Proofs.Storage.Stored

/-!
# What the operations of a controller do

A login either saves its session, which is then the session in memory, or it changes
nothing but what the failed write has done to the store.  Every other operation that
enters a session leaves everything as it is or is such a login.  A controller is sound
if its flag tells whether someone is signed in and the store holds whoever is signed in;
whatever the operations amount to keeps it so.
-/

namespace SignIn

namespace Controller

def withStore (controller : Controller) (store : Backing) : Controller :=
  { controller with store }

@[simp]
theorem withStore_client (controller : Controller) (store : Backing) :
    (controller.withStore store).client = controller.client :=
  rfl

@[simp]
theorem withStore_session (controller : Controller) (store : Backing) :
    (controller.withStore store).session = controller.session :=
  rfl

@[simp]
theorem withStore_watched (controller : Controller) (store : Backing) :
    (controller.withStore store).watched = controller.watched :=
  rfl

@[simp]
theorem withStore_store (controller : Controller) (store : Backing) :
    (controller.withStore store).store = store :=
  rfl

@[simp]
theorem become_client (controller : Controller) (session : Session) :
    (controller.become session).client = controller.client :=
  rfl

@[simp]
theorem become_session (controller : Controller) (session : Session) :
    (controller.become session).session = session :=
  rfl

@[simp]
theorem become_watched (controller : Controller) (session : Session) :
    (controller.become session).watched = session.isAuthenticated :=
  rfl

@[simp]
theorem become_store (controller : Controller) (session : Session) :
    (controller.become session).store = controller.store :=
  rfl

@[simp]
theorem logout_client (controller : Controller) :
    controller.logout.client = controller.client :=
  rfl

@[simp]
theorem logout_session (controller : Controller) : controller.logout.session = .anonymous :=
  rfl

@[simp]
theorem logout_watched (controller : Controller) : controller.logout.watched = false :=
  rfl

@[simp]
theorem logout_store (controller : Controller) :
    controller.logout.store = controller.store.clear.1 :=
  rfl

@[simp]
theorem adopt_client (controller : Controller) (restored : Restored) :
    (controller.adopt restored).client = controller.client := by
  unfold adopt
  split
  · split <;> rfl
  · rfl

@[simp]
theorem ofRestored_client (client : Client) (store : Backing) (restored : Restored) :
    (ofRestored client store restored).client = client := by
  cases restored <;> rfl

def enter (controller : Controller) (session : SignedIn) : Controller :=
  (controller.withStore (controller.store.save session).1).become (.authenticated session)

def miss (controller : Controller) (session : SignedIn) : Controller :=
  controller.withStore (controller.store.save session).1

/-- A controller that holds, shows and has announced what another one does, over a store
with the same entries; whatever was in files is still there. -/
structure Unchanged (before after : Controller) : Prop where
  session : after.session = before.session
  watched : after.watched = before.watched
  notices : after.notices = before.notices
  entries : after.store.entries = before.store.entries
  files : before.store.tree.Extends after.store.tree

theorem Unchanged.refl (controller : Controller) : controller.Unchanged controller where
  session := rfl
  watched := rfl
  notices := rfl
  entries := rfl
  files := FileTree.Extends.refl _

theorem Unchanged.trans {first second third : Controller} (earlier : first.Unchanged second)
    (later : second.Unchanged third) : first.Unchanged third where
  session := later.session.trans earlier.session
  watched := later.watched.trans earlier.watched
  notices := later.notices.trans earlier.notices
  entries := later.entries.trans earlier.entries
  files := earlier.files.trans later.files

theorem unchanged_of_eq {before after : Controller} (same : after = before) :
    before.Unchanged after := by
  rw [same]
  exact Unchanged.refl before

theorem unchanged_miss {controller : Controller} {session : SignedIn} {error : StoreError}
    (unsaved : (controller.store.save session).2 = .error error) :
    controller.Unchanged (controller.miss session) where
  session := rfl
  watched := rfl
  notices := rfl
  entries := Backing.entries_save_error (Prod.ext rfl unsaved)
  files := Backing.extends_write_error (Prod.ext rfl unsaved)

theorem login_of_saved {controller : Controller} {session : SignedIn}
    (saved : (controller.store.save session).2 = .ok ()) :
    controller.login session = (controller.enter session, .ok ()) := by
  unfold login enter withStore
  cases outcome : controller.store.save session with
  | mk store result =>
      rw [outcome] at saved
      simp only at saved
      subst saved
      rfl

theorem login_of_unsaved {controller : Controller} {session : SignedIn} {error : StoreError}
    (unsaved : (controller.store.save session).2 = .error error) :
    controller.login session = (controller.miss session, .error error) := by
  unfold login miss withStore
  cases outcome : controller.store.save session with
  | mk store result =>
      rw [outcome] at unsaved
      simp only at unsaved
      subst unsaved
      rfl

/-- A login has one of two results. -/
theorem login_cases (controller : Controller) (session : SignedIn) :
    ((controller.store.save session).2 = .ok () ∧
        controller.login session = (controller.enter session, .ok ())) ∨
      ∃ error, (controller.store.save session).2 = .error error ∧
        controller.login session = (controller.miss session, .error error) := by
  cases outcome : (controller.store.save session).2 with
  | ok _ => exact .inl ⟨rfl, login_of_saved outcome⟩
  | error error => exact .inr ⟨error, rfl, login_of_unsaved outcome⟩

/-- Logging in unless someone is signed in leaves everything as it is, or nobody was
signed in and the attempt was not cancelled and it is a login. -/
theorem loginIfAnonymous_cases (controller : Controller) (cancelled : Bool)
    (session : SignedIn) :
    (cancelled = true ∧
        controller.loginIfAnonymous cancelled session = (controller, .ok .cancelled)) ∨
      (controller.session.isAuthenticated = true ∧
        controller.loginIfAnonymous cancelled session = (controller, .ok .superseded)) ∨
      (cancelled = false ∧ controller.session = .anonymous ∧
        (((controller.store.save session).2 = .ok () ∧
            controller.loginIfAnonymous cancelled session =
              (controller.enter session, .ok .committed)) ∨
          ∃ error, (controller.store.save session).2 = .error error ∧
            controller.loginIfAnonymous cancelled session =
              (controller.miss session, .error error))) := by
  unfold loginIfAnonymous
  cases cancelled with
  | true => exact .inl ⟨rfl, rfl⟩
  | false =>
      cases held : controller.session with
      | authenticated current => exact .inr (.inl ⟨rfl, rfl⟩)
      | anonymous =>
          refine .inr (.inr ⟨rfl, rfl, ?_⟩)
          rcases login_cases controller session with ⟨saved, result⟩ | ⟨error, unsaved, result⟩
          · exact .inl ⟨saved, by simp [Session.isAuthenticated, result]⟩
          · exact .inr ⟨error, unsaved, by simp [Session.isAuthenticated, result]⟩

theorem refresh_of_held {controller : Controller} {current : SignedIn}
    (held : controller.session = .authenticated current) (reputation : Reputation) :
    controller.refresh current.bearer reputation =
      (controller.login { current with reputation }).1 := by
  simp only [refresh, held, bne_self_eq_false, Bool.false_eq_true, if_false, login]
  split <;> simp_all

theorem refresh_of_other {controller : Controller} {bearer : String}
    (other : controller.session.bearer? ≠ some bearer) (reputation : Reputation) :
    controller.refresh bearer reputation = controller := by
  unfold refresh
  cases held : controller.session with
  | anonymous => rfl
  | authenticated current =>
      have apart : current.bearer ≠ bearer := by
        simpa [held, Session.bearer?, Session.signedIn?] using other
      simp [apart]

/-- Refreshing a reputation leaves everything as it is unless the session of the bearer
is held, and is then a login of that session with the fresh reputation. -/
theorem refresh_cases (controller : Controller) (bearer : String) (reputation : Reputation) :
    (controller.session.bearer? ≠ some bearer ∧
        controller.refresh bearer reputation = controller) ∨
      ∃ current, controller.session = .authenticated current ∧ current.bearer = bearer ∧
        controller.refresh bearer reputation =
          (controller.login { current with reputation }).1 := by
  by_cases mine : controller.session.bearer? = some bearer
  · cases held : controller.session with
    | anonymous => simp [held, Session.bearer?, Session.signedIn?] at mine
    | authenticated current =>
        obtain rfl : current.bearer = bearer := by
          simpa [held, Session.bearer?, Session.signedIn?] using mine
        exact .inr ⟨current, rfl, rfl, refresh_of_held held reputation⟩
  · exact .inl ⟨mine, refresh_of_other mine reputation⟩

/-- The end of a login with a token leaves everything as it is, or an account came and
it is a login of that account. -/
theorem finishTokenLogin_cases (controller : Controller) (token : String)
    (answer : Except FetchError Account) :
    (∃ error, controller.finishTokenLogin token answer = (controller, .error error)) ∨
      ∃ account, answer = .ok account ∧
        (let session : SignedIn := ⟨token, account.profile, account.reputation⟩
        ((controller.store.save session).2 = .ok () ∧
            controller.finishTokenLogin token answer = (controller.enter session, .ok ())) ∨
          ∃ error, (controller.store.save session).2 = .error error ∧
            controller.finishTokenLogin token answer =
              (controller.miss session, .error (.store error))) := by
  unfold finishTokenLogin
  cases answer with
  | error error => exact .inl ⟨_, rfl⟩
  | ok account =>
      refine .inr ⟨account, rfl, ?_⟩
      rcases login_cases controller ⟨token, account.profile, account.reputation⟩ with
        ⟨saved, result⟩ | ⟨error, unsaved, result⟩
      · exact .inl ⟨saved, by simp [result]⟩
      · exact .inr ⟨error, unsaved, by simp [result]⟩

/-- The end of a check leaves everything as it is, drops the session of the bearer, or
is a login of that session with the reputation that came. -/
theorem finishValidation_cases (controller : Controller) (bearer : String)
    (answer : Except FetchError Reputation) :
    (controller.finishValidation bearer answer).1 = controller ∨
      (controller.finishValidation bearer answer).1 = controller.logout ∨
      ∃ current reputation, controller.session = .authenticated current ∧
        current.bearer = bearer ∧ answer = .ok reputation ∧
        (controller.finishValidation bearer answer).1 =
          (controller.login { current with reputation }).1 := by
  unfold finishValidation
  cases answer with
  | error error =>
      by_cases held : controller.session.bearer? = some bearer
      · exact .inr (.inl (by simp [held]))
      · exact .inl (by simp [held])
  | ok reputation =>
      rcases controller.refresh_cases bearer reputation with
        ⟨_, same⟩ | ⟨current, held, mine, result⟩
      · exact .inl same
      · exact .inr (.inr ⟨current, reputation, held, mine, rfl, result⟩)

/-- The flag tells whether someone is signed in, and the store holds whoever is. -/
structure Sound (controller : Controller) : Prop where
  watched : controller.watched = controller.session.isAuthenticated
  holds : ∀ session, controller.session = .authenticated session →
    controller.store.entries.Holds session

theorem sound_of_anonymous {controller : Controller} (session : controller.session = .anonymous)
    (watched : controller.watched = false) : controller.Sound where
  watched := by rw [session, watched, Session.isAuthenticated]
  holds held there := by
    rw [session] at there
    contradiction

theorem sound_logout (controller : Controller) : controller.logout.Sound :=
  sound_of_anonymous rfl rfl

/-- A controller that turns to a session which the store holds is sound. -/
theorem sound_become {controller : Controller} {session : Session}
    (holds : ∀ current, session = .authenticated current →
      controller.store.entries.Holds current) : (controller.become session).Sound where
  watched := rfl
  holds := holds

theorem sound_enter {controller : Controller} {session : SignedIn}
    (saved : (controller.store.save session).2 = .ok ()) :
    (controller.enter session).Sound := by
  apply sound_become
  intro current same
  obtain rfl : session = current := by simpa using same
  exact Backing.holds_save (Prod.ext rfl saved)

namespace Sound

variable {controller : Controller}

theorem withStore (sound : controller.Sound) {store : Backing}
    (same : store.entries = controller.store.entries) : (controller.withStore store).Sound where
  watched := sound.watched
  holds session held := by
    rw [withStore_store, same]
    exact sound.holds session held

theorem miss (sound : controller.Sound) {session : SignedIn} {error : StoreError}
    (unsaved : (controller.store.save session).2 = .error error) :
    (controller.miss session).Sound :=
  sound.withStore (Backing.entries_save_error (Prod.ext rfl unsaved))

/-- What is found in a store may be taken up from there, whatever the store refuses once
it has been read. -/
theorem adopt (sound : controller.Sound) (later : Refusal) :
    ((controller.withStore (controller.store.refuse later)).adopt
      controller.store.load.restore).Sound := by
  have same := sound.withStore (controller.store.entries_refuse later)
  unfold Controller.adopt
  split
  · rename_i session found
    split
    · exact same
    · apply sound_become
      rintro current rfl
      exact @Backing.holds_of_load controller.store current found
  · exact sound_logout _

end Sound

theorem sound_ofRestored (client : Client) (store : Backing) (later : Refusal) :
    (ofRestored client (store.refuse later) store.load.restore).Sound := by
  unfold ofRestored
  split
  · rename_i session found
    constructor
    · rfl
    · rintro current rfl
      exact @Backing.holds_of_load store current found
  · exact sound_logout _

def fresh : Controller :=
  start (.ofBase "http://localhost") (.memory .empty)

/-- A session that differs from others only in its bearer. -/
def sessionOf (bearer : String) : SignedIn where
  bearer := bearer
  profile :=
    { fid := 1
      username := "alice"
      displayName := ""
      bio := ""
      pictureUrl := ""
      custody := ""
      verifications := [] }
  reputation := {}

end Controller

end SignIn
