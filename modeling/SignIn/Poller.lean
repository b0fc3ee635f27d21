import SignIn.Session

/-!
# Polling for a ticket

A poller asks the server about one ticket over and over, with a pause before each
question, until the ticket is redeemed or fails, the poller is cancelled, or someone
has signed in.  It is a state that moves in single steps.  Whenever it wakes up it
first looks at whether it has been cancelled and then at whether someone is signed in;
only then does it take note of an answer.
-/

namespace SignIn

/-- How polling ended. -/
inductive PollResult where
  | loggedIn (profile : Profile)
  | failed (error : SessionError)
  | cancelled
  | superseded
  deriving DecidableEq, Repr

namespace Poller

/-- Where a poller stands: not yet run, in the pause before a question, waiting for the
answer about its ticket, waiting for the reputation that goes with a redeemed ticket,
about to log in, or ended. -/
inductive Phase where
  | fresh
  | resting
  | asking
  | checking (redemption : Redemption)
  | committing (session : SignedIn)
  | ended (result : PollResult)
  deriving DecidableEq, Repr

end Poller

/-- A poller: its ticket, the pause between questions in milliseconds, whether it has
been cancelled, and where it stands. -/
structure Poller where
  ticket : String
  interval : Nat
  cancelled : Bool := false
  phase : Poller.Phase := .fresh
  deriving DecidableEq, Repr

namespace Poller

def result? (poller : Poller) : Option PollResult :=
  match poller.phase with
  | .ended result => some result
  | _ => none

/-- Asks the poller to stop: from here on it cannot log in. -/
def cancel (poller : Poller) : Poller :=
  { poller with cancelled := true }

/-- The poller at its end. -/
def finish (poller : Poller) (result : PollResult) : Poller :=
  { poller with phase := .ended result }

/-- Runs a poller for the first time: it does not begin while someone is signed in. -/
def begin (poller : Poller) (authenticated : Bool) : Poller :=
  match poller.phase with
  | .fresh =>
    if authenticated then poller.finish .superseded
    else { poller with phase := .resting }
  | _ => poller

/-- Whether the poller is in a pause or waits for an answer. -/
def isWaiting (poller : Poller) : Bool :=
  match poller.phase with
  | .resting | .asking | .checking _ => true
  | _ => false

/-- Ends a waiting poller that has been cancelled. -/
def noticeCancel (poller : Poller) : Poller :=
  if poller.isWaiting && poller.cancelled then poller.finish .cancelled else poller

/-- Ends a waiting poller when someone is signed in. -/
def noticeLogin (poller : Poller) (watched : Bool) : Poller :=
  if poller.isWaiting && watched then poller.finish .superseded else poller

/-- Wakes a waiting poller up, which may end it before it looks at anything else. -/
def wake (poller : Poller) (watched : Bool) : Poller :=
  poller.noticeCancel.noticeLogin watched

/-- The request that a poller sends in its phase, if it waits for an answer; the inner
value is absent when the request cannot be built. -/
def request? (poller : Poller) (client : Client) : Option (Option Request) :=
  match poller.phase with
  | .asking => some (client.pollRequest? poller.ticket)
  | .checking redemption => some (client.checkRequest? redemption.bearer)
  | _ => none

/-- Ends the pause: the poller asks about its ticket. -/
def ask (poller : Poller) : Poller :=
  match poller.phase with
  | .resting => { poller with phase := .asking }
  | _ => poller

/-- Takes note of an answer. -/
def receive (poller : Poller) (answer : Answer) : Poller :=
  match poller.phase with
  | .asking =>
    match answer.poll with
    | .pending => { poller with phase := .resting }
    | .redeemed redemption => { poller with phase := .checking redemption }
    | .failed error => poller.finish (.failed (.polling error))
  | .checking redemption =>
    match answer.reputation with
    | .ok reputation =>
      { poller with
        phase := .committing ⟨redemption.bearer, redemption.profile, reputation⟩ }
    | .error error => poller.finish (.failed (.polling error))
  | _ => poller

/-- Logs in, unless the poller has been cancelled or someone is signed in by now. -/
def commit (poller : Poller) (controller : Controller) : Controller × Poller :=
  match poller.phase with
  | .committing session =>
    match controller.loginIfAnonymous poller.cancelled session with
    | (controller, .ok .committed) =>
      (controller, poller.finish (.loggedIn session.profile))
    | (controller, .ok .cancelled) => (controller, poller.finish .cancelled)
    | (controller, .ok .superseded) => (controller, poller.finish .superseded)
    | (controller, .error error) => (controller, poller.finish (.failed (.store error)))
  | _ => (controller, poller)

end Poller

end SignIn
