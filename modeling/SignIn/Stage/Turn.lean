import SignIn.Stage.Call

/-!
# Turns of the pollers

While a step waits, every poller gets its turn, again and again, until what is waited
for has come.  A poller that polls without end is given a bounded number of turns: as
many as could make a difference.
-/

namespace SignIn

namespace Stage

/-- Lets the poller in a seat send its request and take note of the answer, unless
something has ended it by then. -/
def exchange (stage : Stage) (seat : Seat) : Stage :=
  match stage.runner? seat with
  | none => stage
  | some runner =>
    match runner.poller.request? stage.client with
    | none => stage
    | some request =>
      let (stage, answer) := stage.call request
      match stage.runner? seat with
      | none => stage
      | some runner =>
        let watched := (stage.controller runner.owner).watched
        stage.withPoller seat ((runner.poller.wake watched).receive answer)

/-- Lets the poller in a seat log in, if it is about to. -/
def commit (stage : Stage) (seat : Seat) : Stage :=
  match stage.runner? seat with
  | none => stage
  | some runner =>
    let (stage, poller) := stage.act runner.owner runner.poller.commit
    stage.withPoller seat poller

/-- Gives the poller in a seat its turn.  If its pause is one that is over it asks about
its ticket, and if the ticket is redeemed it goes on until it has logged in. -/
def turn (isOver : Nat → Bool) (stage : Stage) (seat : Seat) : Stage :=
  let stage := stage.glanceAt seat
  match stage.runner? seat with
  | none => stage
  | some runner =>
    if runner.poller.phase = .resting && isOver runner.poller.interval then
      let stage := stage.withPoller seat runner.poller.ask
      let stage := stage.exchange seat
      match stage.phase? seat with
      | some (.checking _) => (stage.exchange seat).commit seat
      | _ => stage
    else
      stage

/-- How many turns a poller can take at most before something must end it. -/
def patience (stage : Stage) : Nat :=
  match stage.server with
  | .script replies => replies.length + 2
  | .mock server => server.autoRedeemAfter.getD 0 + 2

/-- Gives every poller turns, up to a number of times, until a condition holds. -/
def waitUntil (isOver : Nat → Bool) (condition : Stage → Bool) :
    (turns : Nat) → Stage → Stage
  | 0, stage => stage
  | turns + 1, stage =>
    if condition stage then stage
    else
      waitUntil isOver condition turns
        ([Seat.handle, .awaited, .prompt].foldl (turn isOver) stage)

/-- Waits for a condition.  Pauses up to a second are over meanwhile, and longer ones
are not. -/
def await (stage : Stage) (condition : Stage → Bool) : Stage :=
  waitUntil (· ≤ 1000) condition stage.patience stage

def isIdle (seat : Seat) (stage : Stage) : Bool :=
  match stage.runner? seat with
  | none => true
  | some runner => runner.poller.result?.isSome

end Stage

end SignIn
