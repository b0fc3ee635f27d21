import SignIn.MockServer.Router
import SignIn.Prompt

/-!
# Steps

A script tells, step by step, what a user does with a session controller, what happens
to the store and to the server meanwhile, and what the server answers.  Some steps are
over at once; others wait for answers, and while they wait an answer that was laid out
beforehand may bring steps of its own.
-/

namespace SignIn

namespace Stage

/-- What is done to a store from outside. -/
inductive StoreStep where
  | save (session : SignedIn)
  | clear
  | load
  | readAll
  | writeAll (entries : Entries)
  | setEntry (key value : String)
  | removeEntry (key : String)
  | getEntry (key : String)
  | refuse (read write : Bool)
  | putFile (path : String) (content : Octets)
  | removeFile (path : String)
  | filePath
  deriving Repr

/-- What is done to a mock server by hand. -/
inductive ServerStep where
  | register (token : String) (account : MockAccount)
  | revoke (token : String)
  | setReputation (token : String) (reputation : UInt32) (data : Json.Value)
  | redeem (ticket token : String)
  | redeemUnregistered (ticket token : String) (account : MockAccount)
  | mute (token username : String)
  | mutedUsers (token : String)
  | failTicket (ticket message : String)
  | setPollDelay
  | setCheckStatus (code : Nat)
  | issuedTickets
  | lastTicketId
  | pollCount (ticket : String)
  deriving Repr

/-- A step that is over at once. -/
inductive InstantStep where
  | store (step : StoreStep)
  | server (step : ServerStep)
  | state
  | login (session : SignedIn)
  | loginIfAnonymous (cancelled : Bool) (session : SignedIn)
  | logout
  | reload
  | cancelPolling
  | dropPolling
  | pollingIsFinished
  | abortWait
  deriving Repr

/-- A step that may wait, or that only makes sense between waits. -/
inductive Step where
  | instant (step : InstantStep)
  | tokenLogin (token : String)
  | tokenLoginFromLink (input : String)
  | validate
  | fetchReputation (bearer : String)
  | get (path : String) (bearer : Option String)
  | getRaw (path : String) (bearer : Option String)
  | send (method path : String) (bearer : Option String) (body : String)
  | begin
  | pollOnce (ticket : String)
  | startPolling (ticket : String) (interval : Nat)
  | runPolling
  | pollingFinished
  | pause
  | reopen
  | promptOpen (interval : Nat)
  | promptTicket
  | promptStart
  | promptIsPolling
  | promptRun
  | promptWait
  | promptClose
  deriving Repr

/-- What is read of a response: its status and its body, if that came whole. -/
structure Fetched where
  status : Status
  body : Option Octets
  deriving DecidableEq, Repr

/-- What comes of a step. -/
inductive Outcome where
  | nothing
  | done
  | flag (value : Bool)
  | number (value : Nat)
  | text (value : String)
  | texts (values : List String)
  | entries (entries : Entries)
  | loaded (stored : Stored)
  | attempt (attempt : LoginAttempt)
  | validation (validation : Validation)
  | reputation (reputation : Reputation)
  | fetched (fetched : Fetched)
  | begun (ticket : Ticket)
  | ticket (ticket : Ticket)
  | polled (outcome : PollOutcome)
  | pollResult (result : PollResult)
  | cancelled
  | noHandle
  | noPrompt
  | aborted
  | storeError (error : StoreError)
  | fetchError (error : FetchError)
  | sessionError (error : SessionError)
  deriving Repr

namespace Outcome

def ofStore : Except StoreError Unit → Outcome
  | .ok () => done
  | .error error => storeError error

def ofText? : Option String → Outcome
  | some value => text value
  | none => nothing

def ofFlag? : Option Bool → Outcome
  | some value => flag value
  | none => nothing

end Outcome

/-- An answer that has been laid out beforehand, with the steps that happen between
the arrival of the request and the answer. -/
structure ScriptedReply where
  answer : Answer
  during : List InstantStep := []
  deriving Repr

/-- What is at the other end: answers laid out beforehand, or a mock server. -/
inductive Server where
  | script (replies : List ScriptedReply)
  | mock (server : MockServer)
  deriving Repr

/-- A request that arrived, and what came of the steps that happened then. -/
structure Arrival where
  request : Request
  during : List Outcome := []
  deriving Repr

def StoreStep.play (backing : Backing) : StoreStep → Backing × Outcome
  | save session =>
    let (backing, outcome) := backing.save session
    (backing, .ofStore outcome)
  | clear =>
    let (backing, outcome) := backing.clear
    (backing, .ofStore outcome)
  | load => (backing, .loaded backing.load)
  | readAll =>
    (backing,
      match backing.read with
      | .ok entries => .entries entries
      | .error error => .storeError error)
  | writeAll entries =>
    let (backing, outcome) := backing.write entries
    (backing, .ofStore outcome)
  | setEntry key value =>
    match backing.medium with
    | .memory store =>
      ({ backing with medium := .memory { entries := store.entries.insert key value } },
        .nothing)
    | .file _ => (backing, .nothing)
  | removeEntry key =>
    match backing.medium with
    | .memory store =>
      ({ backing with medium := .memory { entries := store.entries.erase key } },
        .nothing)
    | .file _ => (backing, .nothing)
  | getEntry key =>
    match backing.medium with
    | .memory store => (backing, .ofText? (store.entries.get? key))
    | .file _ => (backing, .nothing)
  | refuse read write => (backing.refuse { read, write }, .nothing)
  | putFile path content =>
    match backing.medium with
    | .memory _ => (backing, .nothing)
    | .file store =>
      ({ backing with medium := .file { store with
        tree := store.tree.lay (Path.ofText path).parts (.file content) } }, .nothing)
  | removeFile path =>
    match backing.medium with
    | .memory _ => (backing, .nothing)
    | .file store =>
      ({ backing with medium := .file { store with
        tree := store.tree.remove (store.tree.working ++ (Path.ofText path).parts) } },
        .nothing)
  | filePath =>
    match backing.medium with
    | .memory _ => (backing, .nothing)
    | .file store => (backing, .text store.path)

/-- Plays a step on a mock server.  A delay of its answers changes none of them. -/
def ServerStep.play (server : MockServer) : ServerStep → MockServer × Outcome
  | register token account => (server.register token account, .nothing)
  | revoke token => (server.revoke token, .nothing)
  | setReputation token reputation data =>
    (server.setReputation token reputation data, .nothing)
  | redeem ticket token => (server.redeem ticket token, .nothing)
  | redeemUnregistered ticket token account =>
    (server.redeemUnregistered ticket token account, .nothing)
  | mute token username => (server.mute token username, .nothing)
  | mutedUsers token => (server, .texts (server.mutedUsers token))
  | failTicket ticket message => (server.failTicket ticket message, .nothing)
  | setPollDelay => (server, .nothing)
  | setCheckStatus code => (server.setCheckStatus code, .nothing)
  | issuedTickets => (server, .number server.issued)
  | lastTicketId => (server, .ofText? server.lastTicket)
  | pollCount ticket => (server, .number (server.pollCount ticket))

end Stage

end SignIn
