import SignIn.Stage.Turn

/-!
# Playing steps

Each step of a script moves the stage on and has an outcome.
-/

namespace SignIn

namespace Stage

/-- What a poller that was waited for has come to. -/
def awaitedResult? (stage : Stage) : Option PollResult :=
  stage.awaited.bind (·.poller.result?)

def ofResult? : Option PollResult → Outcome
  | some result => .pollResult result
  | none => .nothing

def fetch (response : Response) : Outcome :=
  .fetched ⟨response.status, response.octets.toOption⟩

/-- What comes of a call of which only the response matters. -/
def ofFetch : Except FetchError Response → Outcome
  | .ok response => fetch response
  | .error error => .fetchError error

def tokenLogin (stage : Stage) (token : String) :
    Stage × Except SessionError Unit :=
  let owner := stage.current
  let (stage, answer) := stage.call (stage.client.accountRequest? token)
  stage.act owner (·.finishTokenLogin token answer.account)

/-- Logs in with the token of a link, and tells whether there was one to use. -/
def tokenLoginFromLink (stage : Stage) (input : String) :
    Stage × Except SessionError Bool :=
  match (stage.controller stage.current).tokenToUse? input with
  | none => (stage, .ok false)
  | some token =>
    let (stage, outcome) := stage.tokenLogin token
    (stage, outcome.map fun _ => true)

def validate (stage : Stage) : Stage × Validation :=
  let owner := stage.current
  match (stage.controller owner).session.bearer? with
  | none => (stage, .noSession)
  | some bearer =>
    let (stage, answer) := stage.call (stage.client.checkRequest? bearer)
    stage.act owner (·.finishValidation bearer answer.reputation)

/-- Gets the ticket of a prompt: the one it has, or a new one. -/
def promptTicket (stage : Stage) (prompt : Prompt Poller) (owner : Nat) :
    Stage × Except SessionError Ticket :=
  match prompt.ticket with
  | some ticket => (stage, .ok ticket)
  | none =>
    let (stage, answer) := stage.call stage.client.ticketRequest?
    let (prompt, ticket) := prompt.receiveTicket answer
    ({ stage with prompt := some (prompt, owner) }, ticket)

/-- Gets the ticket of a prompt and starts its poller. -/
def promptStart (stage : Stage) (prompt : Prompt Poller) (owner : Nat) :
    Stage × Except SessionError Ticket :=
  match stage.promptTicket prompt owner with
  | (stage, .error error) => (stage, .error error)
  | (stage, .ok ticket) =>
    let authenticated := (stage.controller owner).session.isAuthenticated
    ({ stage with
        prompt := stage.prompt.map fun (prompt, owner) =>
          (prompt.startPolling ticket authenticated, owner) },
      .ok ticket)

def ofTicket : Except SessionError Ticket → Outcome
  | .ok ticket => .ticket ticket
  | .error error => .sessionError error

/-- Waits for the poller of a prompt, unless the wait is aborted before or meanwhile. -/
def promptWait (stage : Stage) (prompt : Prompt Poller) (owner : Nat) :
    Stage × Outcome :=
  if stage.abort then ({ stage with abort := false }, .aborted)
  else
    match prompt.takePoller with
    | (none, _) => (stage, .nothing)
    | (some poller, prompt) =>
      let stage :=
        { stage with
          prompt := some (prompt, owner)
          awaited := some { poller, owner } }.await
          fun stage => stage.abort || isIdle .awaited stage
      let outcome := if stage.abort then .aborted else ofResult? stage.awaitedResult?
      ({ stage with awaited := none, abort := false }, outcome)

def playPrompt (stage : Stage) (prompt : Prompt Poller) (owner : Nat) :
    Step → Stage × Outcome
  | .promptTicket =>
    let (stage, ticket) := stage.promptTicket prompt owner
    (stage, ofTicket ticket)
  | .promptStart =>
    let (stage, ticket) := stage.promptStart prompt owner
    (stage, ofTicket ticket)
  | .promptIsPolling => (stage, .flag prompt.isPolling)
  | .promptRun => (stage.await (isIdle .prompt), .nothing)
  | .promptWait => stage.promptWait prompt owner
  | .promptClose => ({ stage with prompt := none }, .flag true)
  | _ => (stage, .nothing)

/-- Plays a step of a prompt that may not be open. -/
def playOnPrompt (stage : Stage) (step : Step) : Stage × Outcome :=
  match stage.prompt with
  | some (prompt, owner) => stage.playPrompt prompt owner step
  | none =>
    (stage,
      match step with
      | .promptClose => .flag false
      | _ => .noPrompt)

def play (stage : Stage) : Step → Stage × Outcome
  | .instant step => stage.playInstant step
  | .tokenLogin token =>
    match stage.tokenLogin token with
    | (stage, .ok ()) => (stage, .done)
    | (stage, .error error) => (stage, .sessionError error)
  | .tokenLoginFromLink input =>
    match stage.tokenLoginFromLink input with
    | (stage, .ok used) => (stage, .flag used)
    | (stage, .error error) => (stage, .sessionError error)
  | .validate =>
    let (stage, validation) := stage.validate
    (stage, .validation validation)
  | .fetchReputation bearer =>
    let (stage, answer) := stage.call (stage.client.checkRequest? bearer)
    (stage,
      match answer.reputation with
      | .ok reputation => .reputation reputation
      | .error error => .fetchError error)
  | .get path bearer =>
    let (stage, answer) := stage.call (stage.client.get? path bearer)
    (stage, ofFetch answer.success)
  | .getRaw path bearer =>
    let (stage, answer) := stage.call (stage.client.get? path bearer)
    (stage, ofFetch answer.any)
  | .send method path bearer body =>
    let (stage, answer) :=
      stage.call (stage.client.call? method path bearer body)
    (stage, ofFetch answer.success)
  | .begin =>
    let (stage, answer) := stage.call stage.client.ticketRequest?
    (stage,
      match answer.ticket with
      | .ok ticket => .begun ticket
      | .error error => .sessionError (.begin error))
  | .pollOnce ticket =>
    let (stage, answer) := stage.call (stage.client.pollRequest? ticket)
    (stage, .polled answer.poll)
  | .startPolling ticket interval =>
    ({ stage with
        handle := some { poller := { ticket, interval }, owner := stage.current } },
      .nothing)
  | .runPolling => (stage.await (isIdle .handle), .nothing)
  | .pollingFinished =>
    if stage.handle.isNone then (stage, .nothing)
    else
      let stage :=
        { stage with handle := none, awaited := stage.handle }.await
          (isIdle .awaited)
      ({ stage with awaited := none }, ofResult? stage.awaitedResult?)
  | .pause =>
    (stage.await fun stage =>
      isIdle .handle stage && isIdle .prompt stage, .nothing)
  | .reopen => (stage.reopen, .nothing)
  | .promptOpen interval =>
    ({ stage with prompt := some ({ interval }, stage.current) }, .nothing)
  | step => stage.playOnPrompt step

end Stage

end SignIn
