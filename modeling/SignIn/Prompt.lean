import SignIn.Poller

/-!
# The prompt to sign in

A prompt owns at most one ticket and at most one poller for it, which it has in hand or
knows by a handle.  The ticket is asked for once; a prompt without a ticket asks again.
-/

namespace SignIn

/-- An open prompt, and how it holds its poller. -/
structure Prompt (handle : Type) where
  /-- The pause of its poller in milliseconds. -/
  interval : Nat
  ticket : Option Ticket := none
  poller : Option handle := none
  deriving DecidableEq, Repr

namespace Prompt

variable {handle : Type}

/-- The prompt after the server has answered a request for a ticket. -/
def receiveTicket (prompt : Prompt handle) (answer : Answer) :
    Prompt handle × Except SessionError Ticket :=
  match answer.ticket with
  | .ok ticket => ({ prompt with ticket := some ticket }, .ok ticket)
  | .error error => ({ prompt with ticket := none }, .error (.begin error))

/-- The poller to start for a ticket: none if the prompt has one or someone is signed
in. -/
def pollerToStart? (prompt : Prompt handle) (ticket : Ticket) (authenticated : Bool) :
    Option Poller :=
  if prompt.poller.isNone && !authenticated then
    some { ticket := ticket.id, interval := prompt.interval }
  else
    none

/-- Starts a poller for a ticket, unless there is one or someone is signed in. -/
def startPolling (prompt : Prompt Poller) (ticket : Ticket) (authenticated : Bool) :
    Prompt Poller :=
  match prompt.pollerToStart? ticket authenticated with
  | some poller => { prompt with poller := some poller }
  | none => prompt

/-- Whether a poller of the prompt has not ended. -/
def isPolling (prompt : Prompt Poller) : Bool :=
  match prompt.poller with
  | some poller => poller.result?.isNone
  | none => false

/-- Takes the poller out of the prompt, for someone who waits for its end. -/
def takePoller (prompt : Prompt handle) : Option handle × Prompt handle :=
  (prompt.poller, { prompt with poller := none })

end Prompt

end SignIn
