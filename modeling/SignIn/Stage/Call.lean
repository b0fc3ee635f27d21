import SignIn.Stage.Basic

/-!
# Calls to the server

A request on its way to the server and back.  Everything runs on one thread: while a
request is under way every poller may look around, and between its arrival and its
answer only the steps laid out for that answer happen.
-/

namespace SignIn

namespace Stage

/-- The places where a poller can run. -/
inductive Seat where
  | handle
  | awaited
  | prompt
  deriving DecidableEq, Repr

def runner? (stage : Stage) : Seat → Option Runner
  | .handle => stage.handle
  | .awaited => stage.awaited
  | .prompt =>
    stage.prompt.bind fun (prompt, owner) =>
      prompt.poller.map fun poller => { poller, owner }

def phase? (stage : Stage) (seat : Seat) : Option Poller.Phase :=
  (stage.runner? seat).map fun runner => runner.poller.phase

/-- The stage with the poller in a seat moved on; an empty seat stays empty. -/
def withPoller (stage : Stage) (seat : Seat) (poller : Poller) : Stage :=
  match seat with
  | .handle =>
    { stage with handle := stage.handle.map ({ · with poller }) }
  | .awaited =>
    { stage with awaited := stage.awaited.map ({ · with poller }) }
  | .prompt =>
    { stage with
      prompt := stage.prompt.map fun (prompt, owner) =>
        ({ prompt with poller := prompt.poller.map fun _ => poller }, owner) }

/-- Lets the poller in a seat look around: it begins if it has not, and it notices that
it has been cancelled or that someone is signed in. -/
def glanceAt (stage : Stage) (seat : Seat) : Stage :=
  match stage.runner? seat with
  | none => stage
  | some runner =>
    let controller := stage.controller runner.owner
    match runner.poller.phase with
    | .fresh =>
      let begun := runner.poller.begin controller.session.isAuthenticated
      stage.withPoller seat (begun.wake controller.watched)
    | _ => stage.withPoller seat (runner.poller.wake controller.watched)

/-- Lets every poller look around. -/
def glance (stage : Stage) : Stage :=
  [Seat.handle, .awaited, .prompt].foldl glanceAt stage

/-- What is answered when no more answers are laid out. -/
def exhausted : ScriptedReply where
  answer := .received ⟨.unavailable, { octets := Utf8.encode "no scripted response" }⟩

/-- An answer as it reaches the sender of a request: a response that never has a body
has none. -/
def bodiless (method : String) (answer : Answer) : Answer :=
  match answer with
  | .failed => .failed
  | .received response =>
    if method = "HEAD" || response.status.code = 204 || response.status.code = 304 then
      .received { response with body := { octets := [] } }
    else
      .received response

/-- Sends a request and waits for its answer.  A request that could not be built, that
is not for the web, or that finds no way to the server is not sent. -/
def call (stage : Stage) (request : Option Request) : Stage × Answer :=
  let stage := stage.glance
  match request with
  | none => (stage, .failed)
  | some request =>
    if !stage.reachable || !(["http", "https"].contains request.url.scheme) then
      (stage, .failed)
    else
      match stage.server with
      | .mock server =>
        let (server, response) :=
          server.respond (stage.freshId server.issued) request
        ({ stage with server := .mock server },
          bodiless request.method (.received response))
      | .script replies =>
        let reply := replies.head?.getD exhausted
        let arrived : Stage := { stage with server := .script (replies.drop 1) }
        let (played, during) := arrived.playInstants reply.during
        let logged : Stage :=
          { played with arrivals := played.arrivals ++ [⟨request, during⟩] }
        (logged.glance, bodiless request.method reply.answer)

end Stage

end SignIn
