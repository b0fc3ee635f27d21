import SignIn.Storage.Stored
import SignIn.Client
import SignIn.TokenLink

/-!
# The session controller

The controller decides whether someone is signed in.  It is the only one to write the
session to its store, writes before it believes, and tells those who watch it of every
change.  Its operations are single steps of one value; an operation that waits for an
answer is a step before the wait and a step after it, and what it finds after the wait
is whatever the steps in between have left.
-/

namespace SignIn

/-- Whether someone is signed in, and who. -/
inductive Session where
  | anonymous
  | authenticated (session : SignedIn)
  deriving DecidableEq, Repr

namespace Session

def isAuthenticated : Session → Bool
  | anonymous => false
  | authenticated _ => true

def signedIn? : Session → Option SignedIn
  | anonymous => none
  | authenticated session => some session

def bearer? (session : Session) : Option String :=
  session.signedIn?.map SignedIn.bearer

end Session

/-- What a store turns out to hold: a session, or no more than parts of one. -/
inductive Restored where
  | session (session : Session)
  | corrupted
  deriving DecidableEq, Repr

/-- What the three parts found in a store amount to. -/
def Stored.restore (stored : Stored) : Restored :=
  match stored with
  | ⟨some bearer, some profile, some reputation⟩ =>
    .session (.authenticated ⟨bearer, profile, reputation⟩)
  | ⟨none, none, none⟩ => .session .anonymous
  | _ => .corrupted

/-- What a failed operation failed at. -/
inductive SessionError where
  | begin (error : FetchError)
  | validation (error : FetchError)
  | tokenLogin (error : FetchError)
  | polling (error : FetchError)
  | store (error : StoreError)
  deriving DecidableEq, Repr

namespace SessionError

def chain : SessionError → List String
  | begin error => ("could not start sign-in: " ++ error.message) :: error.chain
  | validation error =>
    ("stored session is no longer valid: " ++ error.message) :: error.chain
  | tokenLogin error => ("token login failed: " ++ error.message) :: error.chain
  | polling error => ("sign-in failed: " ++ error.message) :: error.chain
  | store error => [error.message, error.cause]

def message (error : SessionError) : String :=
  match error with
  | begin inner => "could not start sign-in: " ++ inner.message
  | validation inner => "stored session is no longer valid: " ++ inner.message
  | tokenLogin inner => "token login failed: " ++ inner.message
  | polling inner => "sign-in failed: " ++ inner.message
  | store inner => inner.message

end SessionError

inductive Validation where
  | noSession
  | valid
  | invalidated
  deriving DecidableEq, Repr

/-- What came of logging in unless someone is signed in. -/
inductive LoginAttempt where
  | committed
  | cancelled
  | superseded
  deriving DecidableEq, Repr

/-- The controller: the session, the flag that others watch with a count of how often
it was sent, the client of the server, and the store. -/
structure Controller where
  client : Client
  session : Session
  watched : Bool
  notices : Nat := 0
  store : Backing
  deriving Repr

namespace Controller

/-- The controller with another session, which is told to those who watch. -/
def become (controller : Controller) (session : Session) : Controller :=
  { controller with
    session
    watched := session.isAuthenticated
    notices := controller.notices + 1 }

/-- Enters the session of someone who signs in, whoever was before.  If it cannot be
stored nothing changes but what the store itself has done. -/
def login (controller : Controller) (session : SignedIn) :
    Controller × Except StoreError Unit :=
  match controller.store.save session with
  | (store, .error error) => ({ controller with store }, .error error)
  | (store, .ok ()) =>
    (({ controller with store }).become (.authenticated session), .ok ())

/-- Logs in unless the attempt has been cancelled or someone is signed in. -/
def loginIfAnonymous (controller : Controller) (cancelled : Bool) (session : SignedIn) :
    Controller × Except StoreError LoginAttempt :=
  if cancelled then (controller, .ok .cancelled)
  else if controller.session.isAuthenticated then (controller, .ok .superseded)
  else
    match controller.login session with
    | (controller, .error error) => (controller, .error error)
    | (controller, .ok ()) => (controller, .ok .committed)

/-- Drops the session.  That the store may fail to drop it changes nothing here. -/
def logout (controller : Controller) : Controller :=
  ({ controller with store := controller.store.clear.1 }).become .anonymous

/-- A new controller over a store, with what has been found there; parts of a session
are removed. -/
def ofRestored (client : Client) (store : Backing) : Restored → Controller
  | .session session =>
    { client, session, watched := session.isAuthenticated, store }
  | .corrupted =>
    ({ client, session := .anonymous, watched := false, store : Controller }).logout

/-- A new controller over a store, with the session that the store holds. -/
def start (client : Client) (store : Backing) : Controller :=
  .ofRestored client store store.load.restore

/-- Takes up what has been found in the store; parts of a session force a logout. -/
def adopt (controller : Controller) : Restored → Controller
  | .session session =>
    if controller.session = session then controller else controller.become session
  | .corrupted => controller.logout

/-- Takes up the session that the store holds now. -/
def reload (controller : Controller) : Controller :=
  controller.adopt controller.store.load.restore

/-- The end of a login with a token: what the server answered about its account. -/
def finishTokenLogin (controller : Controller) (token : String)
    (answer : Except FetchError Account) : Controller × Except SessionError Unit :=
  match answer with
  | .error error => (controller, .error (.tokenLogin error))
  | .ok account =>
    match controller.login ⟨token, account.profile, account.reputation⟩ with
    | (controller, .error error) => (controller, .error (.store error))
    | (controller, .ok ()) => (controller, .ok ())

/-- The token to log in with from a link: none without a token or while someone is
signed in. -/
def tokenToUse? (controller : Controller) (input : String) : Option String :=
  match TokenLink.token? input with
  | none => none
  | some token => if controller.session.isAuthenticated then none else some token

/-- Puts a fresh reputation into the session of a bearer, if it is still that one and
the store takes it. -/
def refresh (controller : Controller) (bearer : String) (reputation : Reputation) :
    Controller :=
  match controller.session with
  | .anonymous => controller
  | .authenticated current =>
    if current.bearer != bearer then controller
    else
      let refreshed := { current with reputation }
      match controller.store.save refreshed with
      | (store, .error _) => { controller with store }
      | (store, .ok ()) =>
        ({ controller with store }).become (.authenticated refreshed)

/-- The end of checking a bearer: an accepted one has its reputation refreshed, and
the session of one that was not accepted is dropped. -/
def finishValidation (controller : Controller) (bearer : String)
    (answer : Except FetchError Reputation) : Controller × Validation :=
  match answer with
  | .ok reputation => (controller.refresh bearer reputation, .valid)
  | .error _ =>
    (if controller.session.bearer? = some bearer then controller.logout else controller,
      .invalidated)

end Controller

end SignIn
