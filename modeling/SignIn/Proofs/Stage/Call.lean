import SignIn.Stage.Play

/-!
# What a call leaves

Only a call writes down what has arrived: its own request, once, if it reaches a server that
answers by a script.  Where no poller runs a call does nothing else but to take an answer.
-/

namespace SignIn

namespace Stage

/-- No poller is on the stage. -/
structure IsQuiet (stage : Stage) : Prop where
  handle : stage.handle = none
  awaited : stage.awaited = none
  prompt : stage.prompt = none

theorem IsQuiet.glance {stage : Stage} (quiet : stage.IsQuiet) : stage.glance = stage := by
  have nobody (seat : Seat) : stage.glanceAt seat = stage := by
    have empty : stage.runner? seat = none := by
      cases seat with
      | handle => exact quiet.handle
      | awaited => exact quiet.awaited
      | prompt => simp [runner?, quiet.prompt]
    rw [glanceAt, empty]
  simp only [Stage.glance, List.foldl_cons, List.foldl_nil, nobody]

/-- Two stages with one server, the same way to it and the same arrivals. -/
structure SameServer (before after : Stage) : Prop where
  server : after.server = before.server
  reachable : after.reachable = before.reachable
  arrivals : after.arrivals = before.arrivals

theorem sameServer_withPoller (stage : Stage) (seat : Seat) (poller : Poller) :
    stage.SameServer (stage.withPoller seat poller) := by
  cases seat <;> exact ⟨rfl, rfl, rfl⟩

theorem sameServer_glanceAt (stage : Stage) (seat : Seat) :
    stage.SameServer (stage.glanceAt seat) := by
  unfold glanceAt
  split
  · exact ⟨rfl, rfl, rfl⟩
  · simp only
    split
    · exact sameServer_withPoller stage seat _
    · exact sameServer_withPoller stage seat _

theorem sameServer_glance (stage : Stage) : stage.SameServer stage.glance := by
  have first := stage.sameServer_glanceAt .handle
  have second := (stage.glanceAt .handle).sameServer_glanceAt .awaited
  have third := ((stage.glanceAt .handle).glanceAt .awaited).sameServer_glanceAt .prompt
  exact ⟨third.server.trans (second.server.trans first.server),
    third.reachable.trans (second.reachable.trans first.reachable),
    third.arrivals.trans (second.arrivals.trans first.arrivals)⟩

theorem arrivals_playInstant (stage : Stage) (step : InstantStep) :
    (stage.playInstant step).1.arrivals = stage.arrivals := by
  cases step with
  | server step =>
      simp only [playInstant]
      split <;> rfl
  | cancelPolling =>
      simp only [playInstant]
      split <;> rfl
  | _ => rfl

theorem arrivals_playInstants (stage : Stage) (steps : List InstantStep) :
    (stage.playInstants steps).1.arrivals = stage.arrivals := by
  induction steps generalizing stage with
  | nil => rfl
  | cons step steps ih => exact (ih _).trans (stage.arrivals_playInstant step)

/-- A request finds its way to the server. -/
def Delivers (stage : Stage) (request : Request) : Prop :=
  stage.reachable = true ∧ ["http", "https"].contains request.url.scheme = true

/-- The stage after a request has arrived at a script and the next answer has come back. -/
def answered (stage : Stage) (replies : List ScriptedReply) (request : Request) : Stage :=
  let reply := replies.head?.getD exhausted
  let arrived : Stage := { stage with server := .script (replies.drop 1) }
  let played := arrived.playInstants reply.during
  let logged : Stage :=
    { played.1 with arrivals := played.1.arrivals ++ [⟨request, played.2⟩] }
  logged.glance

theorem arrivals_answered (stage : Stage) (replies : List ScriptedReply) (request : Request) :
    ∃ during, (stage.answered replies request).arrivals =
      stage.arrivals ++ [⟨request, during⟩] := by
  let arrived : Stage := { stage with server := .script (replies.drop 1) }
  let played := arrived.playInstants (replies.head?.getD exhausted).during
  have before : played.1.arrivals = stage.arrivals := arrivals_playInstants arrived _
  have glanced : (stage.answered replies request).arrivals =
      played.1.arrivals ++ [⟨request, played.2⟩] := (sameServer_glance _).arrivals
  exact ⟨played.2, by rw [glanced, before]⟩

theorem call_of_undelivered {stage : Stage} {request : Request}
    (undelivered : ¬ stage.Delivers request) :
    stage.call (some request) = (stage.glance, .failed) := by
  have noWay : (!stage.glance.reachable || !(["http", "https"].contains request.url.scheme)) =
      true := by
    rw [stage.sameServer_glance.reachable]
    unfold Delivers at undelivered
    revert undelivered
    cases stage.reachable <;> cases ["http", "https"].contains request.url.scheme <;> simp
  unfold call
  simp only [noWay, if_true]

theorem call_of_script {stage : Stage} {request : Request} (delivers : stage.Delivers request)
    {replies : List ScriptedReply} (script : stage.server = .script replies) :
    stage.call (some request) =
      (stage.glance.answered replies request,
        bodiless request.method (replies.head?.getD exhausted).answer) := by
  have way : (!stage.glance.reachable || !(["http", "https"].contains request.url.scheme)) =
      false := by
    rw [stage.sameServer_glance.reachable, delivers.1, delivers.2]
    rfl
  unfold call
  simp only [way, Bool.false_eq_true, if_false, stage.sameServer_glance.server, script]
  rfl

theorem arrivals_call (stage : Stage) (request : Option Request) :
    (stage.call request).1.arrivals = stage.arrivals ∨ ∃ sent during, request = some sent ∧
      (stage.call request).1.arrivals = stage.arrivals ++ [⟨sent, during⟩] := by
  have glanced := stage.sameServer_glance
  cases request with
  | none => exact .inl glanced.arrivals
  | some request =>
      by_cases delivers : stage.Delivers request
      · cases server : stage.server with
        | script replies =>
            obtain ⟨during, added⟩ := stage.glance.arrivals_answered replies request
            refine .inr ⟨request, during, rfl, ?_⟩
            rw [call_of_script delivers server, added, glanced.arrivals]
        | mock mock =>
            left
            unfold call
            simp only [glanced.server, server]
            split <;> exact glanced.arrivals
      · rw [call_of_undelivered delivers]
        exact .inl glanced.arrivals

theorem arrivals_call_of_script {stage : Stage} {request : Request}
    (delivers : stage.Delivers request) {replies : List ScriptedReply}
    (script : stage.server = .script replies) :
    ∃ during, (stage.call (some request)).1.arrivals = stage.arrivals ++ [⟨request, during⟩] := by
  obtain ⟨during, added⟩ := stage.glance.arrivals_answered replies request
  refine ⟨during, ?_⟩
  rw [call_of_script delivers script, added, stage.sameServer_glance.arrivals]

/-- Without pollers a call takes the next answer of the script, and that is all. -/
theorem IsQuiet.call {stage : Stage} {request : Request} (quiet : stage.IsQuiet)
    (delivers : stage.Delivers request) {answer : Answer} {later : List ScriptedReply}
    (script : stage.server = .script ({ answer } :: later)) :
    stage.call (some request) =
      ({ stage with
          server := .script later
          arrivals := stage.arrivals ++ [⟨request, []⟩] },
        bodiless request.method answer) := by
  have still : stage.answered ({ answer } :: later) request =
      { stage with
        server := .script later
        arrivals := stage.arrivals ++ [⟨request, []⟩] } := by
    have after : ({ stage with
        server := .script later
        arrivals := stage.arrivals ++ [⟨request, []⟩] } : Stage).IsQuiet :=
      ⟨quiet.handle, quiet.awaited, quiet.prompt⟩
    exact after.glance
  rw [call_of_script delivers script, quiet.glance, still]
  rfl

end Stage

end SignIn
