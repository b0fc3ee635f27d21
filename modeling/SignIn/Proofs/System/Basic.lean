import SignIn.Prompt

/-!
# Everything around one controller

A system is a controller with all that goes on around it: logins and checks that wait
for an answer, pollers, and prompts.  It moves by events in any order.  Whatever the
controller does under its lock is one event, for nothing else can come between; what
happens before a wait and what happens after it are two.

A poller moves by single actions.  Whether it notices in time that it has been cancelled
or that someone is signed in is left open, so that an answer may overtake either.  A
request that cannot be built is not sent, and what comes back for it is a failure.  The
store may refuse to be read or to be written at any time, also between the two accesses
of one operation.
-/

namespace SignIn

/-- What has happened, as far as it is told later: a request was sent, an answer to one
came, or a login took effect. -/
inductive Record where
  | asked (request : Request)
  | answered (request : Request) (answer : Answer)
  | committed (session : SignedIn)
  deriving DecidableEq, Repr

/-- Who can release a poller: the owner of its handle, a future that waits for its end,
a prompt, or nobody any more. -/
inductive Holder where
  | handle
  | future
  | prompt
  | nobody
  deriving DecidableEq, Repr

/-- A poller that was started, and who holds it. -/
structure PollTask where
  poller : Poller
  holder : Holder
  deriving DecidableEq, Repr

/-- What a prompt is busy with: nothing, a request for a ticket which a poller is to be
started for or not, or the wait for the end of a poller. -/
inductive PromptCall where
  | idle
  | fetching (starts : Bool)
  | waiting (task : Nat)
  deriving DecidableEq, Repr

/-- A prompt that knows its poller by a number, and what it is busy with. -/
structure OpenPrompt where
  prompt : Prompt Nat
  call : PromptCall := .idle
  deriving DecidableEq, Repr

/-- A controller and all that goes on around it.  Whatever is started gets the next free
number, which stays its own when it is gone. -/
structure System where
  controller : Controller
  /-- The tokens of logins that wait for the account. -/
  tokenLogins : List (Option String) := []
  /-- The bearers of checks that wait for the reputation. -/
  validations : List (Option String) := []
  pollers : List (Option PollTask) := []
  prompts : List (Option OpenPrompt) := []
  journal : List Record := []
  deriving Repr

inductive PollAction where
  | begin
  | noticeCancel
  | noticeLogin
  | ask
  | receive (answer : Answer)
  | commit
  deriving DecidableEq, Repr

/-- What may happen to the handle of a poller: a call to cancel, its end, a call to wait
for the end of the poller, and the end of that wait, be it early or late. -/
inductive HandleAction where
  | cancel
  | drop
  | finished
  | leave
  deriving DecidableEq, Repr

/-- What may happen to a prompt: its calls, the answer to a request for a ticket, the end
of a call that waits, be it early or late, and the end of the prompt. -/
inductive PromptAction where
  | ticket
  | start
  | receive (answer : Answer)
  | wait
  | leave
  | close
  | drop
  deriving DecidableEq, Repr

/-- What may happen next. -/
inductive Event where
  | refuse (refusal : Refusal)
  | login (session : SignedIn)
  | loginIfAnonymous (cancelled : Bool) (session : SignedIn)
  | logout
  | reload (later : Refusal)
  | restart (later : Refusal)
  | beginTokenLogin (token : String)
  | beginLinkLogin (input : String)
  | endTokenLogin (number : Nat) (answer : Answer)
  | beginValidation
  | endValidation (number : Nat) (answer : Answer)
  | startPolling (ticket : String) (interval : Nat)
  | poll (number : Nat) (action : PollAction)
  | handle (number : Nat) (action : HandleAction)
  | openPrompt (interval : Nat)
  | prompt (number : Nat) (action : PromptAction)
  deriving DecidableEq, Repr

namespace System

def client (system : System) : Client :=
  system.controller.client

def poller? (system : System) (number : Nat) : Option PollTask :=
  system.pollers[number]?.join

def prompt? (system : System) (number : Nat) : Option OpenPrompt :=
  system.prompts[number]?.join

def withPoller (system : System) (number : Nat) (task : PollTask) : System :=
  { system with pollers := system.pollers.set number (some task) }

def withPrompt (system : System) (number : Nat) (prompt : Option OpenPrompt) : System :=
  { system with prompts := system.prompts.set number prompt }

def send (system : System) (request : Option Request) : System :=
  { system with journal := system.journal ++ request.toList.map .asked }

/-- Lets the answer to a request come back; without a request it is a failure. -/
def hear (system : System) (request : Option Request) (answer : Answer) :
    System × Answer :=
  match request with
  | none => (system, .failed)
  | some request =>
    ({ system with journal := system.journal ++ [.answered request answer] }, answer)

def commit (system : System) (controller : Controller) (session : SignedIn) : System :=
  { system with controller, journal := system.journal ++ [.committed session] }

def login (system : System) (session : SignedIn) : System :=
  match system.controller.login session with
  | (controller, .ok ()) => system.commit controller session
  | (controller, .error _) => { system with controller }

/-- Logs in unless the attempt has been cancelled or someone is signed in. -/
def loginIfAnonymous (system : System) (cancelled : Bool) (session : SignedIn) : System :=
  match system.controller.loginIfAnonymous cancelled session with
  | (controller, .ok .committed) => system.commit controller session
  | (controller, _) => { system with controller }

def beginTokenLogin (system : System) (token : String) : System :=
  { system with tokenLogins := system.tokenLogins ++ [some token] }.send
    (system.client.accountRequest? token)

/-- Begins a login with the token of a link, if there is one to use. -/
def beginLinkLogin (system : System) (input : String) : System :=
  match system.controller.tokenToUse? input with
  | none => system
  | some token => system.beginTokenLogin token

def endTokenLogin (system : System) (number : Nat) (answer : Answer) : System :=
  match system.tokenLogins[number]?.join with
  | none => system
  | some token =>
    let (system, answer) := system.hear (system.client.accountRequest? token) answer
    let system := { system with tokenLogins := system.tokenLogins.set number none }
    match answer.account, system.controller.finishTokenLogin token answer.account with
    | .ok account, (controller, .ok ()) =>
      system.commit controller ⟨token, account.profile, account.reputation⟩
    | _, (controller, _) => { system with controller }

/-- Asks for the reputation behind the bearer that is held, if there is one. -/
def beginValidation (system : System) : System :=
  match system.controller.session.bearer? with
  | none => system
  | some bearer =>
    { system with validations := system.validations ++ [some bearer] }.send
      (system.client.checkRequest? bearer)

def endValidation (system : System) (number : Nat) (answer : Answer) : System :=
  match system.validations[number]?.join with
  | none => system
  | some bearer =>
    let (system, answer) := system.hear (system.client.checkRequest? bearer) answer
    { system with
      validations := system.validations.set number none
      controller := (system.controller.finishValidation bearer answer.reputation).1 }

/-- Takes up what the store holds; the store may refuse other things once it has been
read. -/
def reload (system : System) (later : Refusal) : System :=
  let controller := system.controller
  { system with
    controller := { controller with store := controller.store.refuse later }.adopt
      controller.store.load.restore }

/-- A system over a store with nothing going on; the store may refuse other things once
it has been read. -/
def start (client : Client) (store : Backing) (later : Refusal) : System where
  controller := .ofRestored client (store.refuse later) store.load.restore

/-- Ends everything and makes a new controller over the store. -/
def restart (system : System) (later : Refusal) : System :=
  { start system.client system.controller.store later with
    tokenLogins := system.tokenLogins.map fun _ => none
    validations := system.validations.map fun _ => none
    pollers := system.pollers.map fun _ => none
    prompts := system.prompts.map fun _ => none
    journal := system.journal }

def startPolling (system : System) (ticket : String) (interval : Nat) : System :=
  let task : PollTask := { poller := { ticket, interval }, holder := .handle }
  { system with pollers := system.pollers ++ [some task] }

def requestOf (system : System) (poller : Poller) : Option Request :=
  (poller.request? system.client).join

/-- Takes note of an answer to a poller.  A redeemed ticket is followed by the request for
the reputation at once. -/
def receive (system : System) (number : Nat) (task : PollTask) (answer : Answer) :
    System :=
  match task.poller.request? system.client with
  | none => system
  | some request =>
    let (system, answer) := system.hear request answer
    let poller := task.poller.receive answer
    (system.withPoller number { task with poller }).send (system.requestOf poller)

def commitPoll (system : System) (number : Nat) (task : PollTask) : System :=
  let (controller, poller) := task.poller.commit system.controller
  let system := system.withPoller number { task with poller }
  match task.poller.phase, poller.phase with
  | .committing session, .ended (.loggedIn _) => system.commit controller session
  | _, _ => { system with controller }

def poll (system : System) (number : Nat) (action : PollAction) : System :=
  match system.poller? number with
  | none => system
  | some task =>
    let become (poller : Poller) : System :=
      system.withPoller number { task with poller }
    match action with
    | .begin => become (task.poller.begin system.controller.session.isAuthenticated)
    | .noticeCancel => become task.poller.noticeCancel
    | .noticeLogin => become (task.poller.noticeLogin system.controller.watched)
    | .ask =>
      if task.poller.phase = .resting then
        (become task.poller.ask).send (system.requestOf task.poller.ask)
      else system
    | .receive answer => system.receive number task answer
    | .commit => system.commitPoll number task

/-- Releases a poller, which cancels it. -/
def release (system : System) (number : Nat) : System :=
  match system.poller? number with
  | none => system
  | some task =>
    system.withPoller number { poller := task.poller.cancel, holder := .nobody }

def handle (system : System) (number : Nat) (action : HandleAction) : System :=
  match system.poller? number with
  | none => system
  | some task =>
    match task.holder, action with
    | .handle, .cancel => system.withPoller number { task with poller := task.poller.cancel }
    | .handle, .drop => system.release number
    | .handle, .finished => system.withPoller number { task with holder := .future }
    | .future, .leave => system.release number
    | _, _ => system

/-- Starts the poller of a prompt for a ticket, unless there is one or someone is signed
in. -/
def startPrompt (system : System) (number : Nat) (opened : OpenPrompt) (ticket : Ticket) :
    System :=
  match opened.prompt.pollerToStart? ticket system.controller.session.isAuthenticated with
  | none => system.withPrompt number (some opened)
  | some poller =>
    let started := { opened.prompt with poller := some system.pollers.length }
    let task : PollTask := { poller, holder := .prompt }
    { system with pollers := system.pollers ++ [some task] }.withPrompt number
      (some { opened with prompt := started })

/-- Gets the ticket of a prompt, the one it has or a new one. -/
def getTicket (system : System) (number : Nat) (opened : OpenPrompt) (starts : Bool) :
    System :=
  match opened.prompt.ticket with
  | none =>
    (system.withPrompt number (some { opened with call := .fetching starts })).send
      system.client.ticketRequest?
  | some ticket => if starts then system.startPrompt number opened ticket else system

def receiveTicket (system : System) (number : Nat) (opened : OpenPrompt) (starts : Bool)
    (answer : Answer) : System :=
  let (system, answer) := system.hear system.client.ticketRequest? answer
  match opened.prompt.receiveTicket answer with
  | (prompt, .error _) => system.withPrompt number (some { prompt })
  | (prompt, .ok ticket) =>
    if starts then system.startPrompt number { prompt } ticket
    else system.withPrompt number (some { prompt })

/-- Ends a prompt and releases its poller, if it has one. -/
def closePrompt (system : System) (number : Nat) (opened : OpenPrompt) : System :=
  match opened.prompt.poller with
  | none => system.withPrompt number none
  | some task => (system.release task).withPrompt number none

/-- Lets something happen to an open prompt.  While it is busy nothing but the end of its
call can happen to it. -/
def actPrompt (system : System) (number : Nat) (opened : OpenPrompt)
    (action : PromptAction) : System :=
  match opened.call with
  | .idle =>
    match action with
    | .ticket => system.getTicket number opened false
    | .start => system.getTicket number opened true
    | .wait =>
      match opened.prompt.takePoller with
      | (none, _) => system
      | (some task, prompt) =>
        system.withPrompt number (some { prompt, call := .waiting task })
    | .close => system.closePrompt number opened
    | .drop => system.closePrompt number opened
    | _ => system
  | .fetching starts =>
    match action with
    | .receive answer => system.receiveTicket number opened starts answer
    | .leave => system.withPrompt number (some { opened with call := .idle })
    | _ => system
  | .waiting task =>
    match action with
    | .leave => (system.release task).withPrompt number (some { opened with call := .idle })
    | _ => system

def prompt (system : System) (number : Nat) (action : PromptAction) : System :=
  match system.prompt? number with
  | none => system
  | some opened => system.actPrompt number opened action

def step (system : System) : Event → System
  | .refuse refusal =>
    { system with
      controller := { system.controller with store := system.controller.store.refuse refusal } }
  | .login session => system.login session
  | .loginIfAnonymous cancelled session => system.loginIfAnonymous cancelled session
  | .logout => { system with controller := system.controller.logout }
  | .reload later => system.reload later
  | .restart later => system.restart later
  | .beginTokenLogin token => system.beginTokenLogin token
  | .beginLinkLogin input => system.beginLinkLogin input
  | .endTokenLogin number answer => system.endTokenLogin number answer
  | .beginValidation => system.beginValidation
  | .endValidation number answer => system.endValidation number answer
  | .startPolling ticket interval => system.startPolling ticket interval
  | .poll number action => system.poll number action
  | .handle number action => system.handle number action
  | .openPrompt interval =>
    { system with prompts := system.prompts ++ [some { prompt := { interval } }] }
  | .prompt number action => system.prompt number action

def run (system : System) (events : List Event) : System :=
  events.foldl step system

@[simp]
theorem run_nil (system : System) : system.run [] = system :=
  rfl

@[simp]
theorem run_cons (system : System) (event : Event) (events : List Event) :
    system.run (event :: events) = (system.step event).run events :=
  rfl

@[simp]
theorem run_append (system : System) (first second : List Event) :
    system.run (first ++ second) = (system.run first).run second := by
  simp [run]

def gather {α : Type} (observe : System → Event → List α) (system : System) :
    List Event → List α
  | [] => []
  | event :: events => observe system event ++ gather observe (system.step event) events

section Gather

variable {α : Type} {observe : System → Event → List α}

theorem gather_append (system : System) (first second : List Event) :
    system.gather observe (first ++ second) =
      system.gather observe first ++ (system.run first).gather observe second := by
  induction first generalizing system with
  | nil => rfl
  | cons event first ih =>
      rw [List.cons_append, gather, gather, ih, List.append_assoc, run_cons]

theorem gather_concat (system : System) (events : List Event) (event : Event) :
    system.gather observe (events ++ [event]) =
      system.gather observe events ++ observe (system.run events) event := by
  rw [gather_append, gather, gather, List.append_nil]

/-- What is observed in a run is observed in one of its events. -/
theorem mem_gather_iff {system : System} {events : List Event} {item : α} :
    item ∈ system.gather observe events ↔ ∃ before event after,
      events = before ++ event :: after ∧ item ∈ observe (system.run before) event := by
  induction events generalizing system with
  | nil => simp [gather]
  | cons first events ih =>
      rw [gather, List.mem_append, ih]
      constructor
      · rintro (now | ⟨before, event, after, rfl, later⟩)
        · exact ⟨[], first, events, rfl, now⟩
        · exact ⟨first :: before, event, after, rfl, later⟩
      · rintro ⟨before, event, after, split, observed⟩
        cases before with
        | nil =>
            obtain ⟨rfl, rfl⟩ := List.cons.inj split
            exact .inl observed
        | cons head before =>
            obtain ⟨rfl, rfl⟩ := List.cons.inj split
            exact .inr ⟨before, event, after, rfl, observed⟩

end Gather

end System

end SignIn
