import SignIn.Stage.Step

/-!
# The stage

Everything that steps act on: the controllers over one store, the pollers that are
running, an open prompt, and the server with the way to it.  Steps that are over at
once are played here.
-/

namespace SignIn

/-- A poller that runs, and the number of the controller it works for. -/
structure Runner where
  poller : Poller
  owner : Nat
  deriving Repr

/-- Everything that steps act on. -/
structure Stage where
  client : Client
  store : Backing
  /-- The controllers over the store in the order in which they were made; the last one
  is in use, and earlier ones may still have pollers. -/
  controllers : List Controller
  server : Stage.Server
  /-- Whether requests arrive at the server. -/
  reachable : Bool
  /-- The names for tickets that may be issued, by the number issued so far. -/
  freshId : Nat → String
  /-- What has arrived in the present step. -/
  arrivals : List Stage.Arrival := []
  /-- The poller that can be cancelled by its handle. -/
  handle : Option Runner := none
  /-- The poller that a step waits for. -/
  awaited : Option Runner := none
  prompt : Option (Prompt Poller × Nat) := none
  abort : Bool := false
  /-- How many notices of the controller in use have been seen. -/
  seen : Nat := 0

namespace Stage

/-- The number of the controller in use. -/
def current (stage : Stage) : Nat :=
  stage.controllers.length - 1

/-- A controller, over the store as it is now. -/
def controller (stage : Stage) (owner : Nat) : Controller :=
  match stage.controllers[owner]? with
  | some controller => { controller with store := stage.store }
  | none => .start stage.client stage.store

/-- The stage with a controller moved on, and the store with it. -/
def withController (stage : Stage) (owner : Nat) (controller : Controller) : Stage :=
  { stage with
    store := controller.store
    controllers := stage.controllers.set owner controller }

def act {α : Type} (stage : Stage) (owner : Nat)
    (action : Controller → Controller × α) : Stage × α :=
  let (controller, value) := action (stage.controller owner)
  (stage.withController owner controller, value)

def change (stage : Stage) (owner : Nat) (action : Controller → Controller) :
    Stage :=
  stage.withController owner (action (stage.controller owner))

def start (client : Client) (store : Backing) (server : Server) (reachable : Bool)
    (freshId : Nat → String) : Stage :=
  let controller := Controller.start client store
  { client, server, reachable, freshId
    store := controller.store
    controllers := [controller]
    seen := controller.notices }

/-- Makes a new controller over the store, which is watched from now on. -/
def reopen (stage : Stage) : Stage :=
  let controller := Controller.start stage.client stage.store
  { stage with
    store := controller.store
    controllers := stage.controllers ++ [controller]
    seen := controller.notices }

/-- Whether the controller in use has sent notices that have not been seen. -/
def hasNews (stage : Stage) : Bool :=
  (stage.controller stage.current).notices != stage.seen

/-- The stage before its next step: all notices are seen and nothing has arrived. -/
def settle (stage : Stage) : Stage :=
  { stage with
    seen := (stage.controller stage.current).notices
    arrivals := [] }

/-- Plays a step that is over at once. -/
def playInstant (stage : Stage) : InstantStep → Stage × Outcome
  | .store step =>
    let (store, outcome) := step.play stage.store
    ({ stage with store }, outcome)
  | .server step =>
    match stage.server with
    | .mock server =>
      let (server, outcome) := step.play server
      ({ stage with server := .mock server }, outcome)
    | .script _ => (stage, .nothing)
  | .state => (stage, .nothing)
  | .login session =>
    let (stage, outcome) := stage.act stage.current (·.login session)
    (stage, .ofStore outcome)
  | .loginIfAnonymous cancelled session =>
    let (stage, outcome) :=
      stage.act stage.current (·.loginIfAnonymous cancelled session)
    (stage,
      match outcome with
      | .ok attempt => .attempt attempt
      | .error error => .storeError error)
  | .logout => (stage.change stage.current Controller.logout, .nothing)
  | .reload => (stage.change stage.current Controller.reload, .nothing)
  | .cancelPolling =>
    match stage.handle with
    | some runner =>
      ({ stage with handle := some { runner with poller := runner.poller.cancel } },
        .cancelled)
    | none => (stage, .noHandle)
  | .dropPolling => ({ stage with handle := none }, .flag stage.handle.isSome)
  | .pollingIsFinished =>
    (stage, .ofFlag? (stage.handle.map (·.poller.result?.isSome)))
  | .abortWait => ({ stage with abort := true }, .nothing)

def playInstants (stage : Stage) : List InstantStep → Stage × List Outcome
  | [] => (stage, [])
  | step :: steps =>
    let (stage, outcome) := stage.playInstant step
    let (stage, outcomes) := stage.playInstants steps
    (stage, outcome :: outcomes)

end Stage

end SignIn
