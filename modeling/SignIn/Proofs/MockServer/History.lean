import SignIn.Stage.Step
import SignIn.Proofs.Dictionary
import Mathlib.Data.List.Induction

/-!
# What happens to a mock server

A mock server moves by requests and by the calls of those who test with it.  What one event
does to one ticket and to one account is told here case by case; what a whole history has
done is told elsewhere, by the latest of the events that count.
-/

namespace SignIn

namespace MockServer

/-- What may happen to a mock server: a call by hand, the decision after how many questions a
ticket redeems itself, or a request, with the name for a ticket that it may issue. -/
inductive Event where
  | call (step : Stage.ServerStep)
  | redeemAfter (polls : Nat)
  | request (freshId method path : String) (authorization : Option Octets)

def step (server : MockServer) : Event → MockServer
  | .call step => (step.play server).1
  | .redeemAfter polls => { server with autoRedeemAfter := some polls }
  | .request freshId method path authorization =>
    (server.serve freshId method path authorization).1

def run (server : MockServer) (events : List Event) : MockServer :=
  events.foldl step server

def ofEvents (events : List Event) : MockServer :=
  ({} : MockServer).run events

@[simp]
theorem ofEvents_concat (events : List Event) (event : Event) :
    ofEvents (events ++ [event]) = (ofEvents events).step event := by
  simp [ofEvents, run]

theorem ofEvents_append (events others : List Event) :
    ofEvents (events ++ others) = (ofEvents events).run others := by
  simp [ofEvents, run]

def resource? (method path : String) : Option Route :=
  (route? path).filter fun route => route.methods.contains method

/-- The ticket that a request asks about. -/
def asked? (method path : String) : Option String :=
  match resource? method path with
  | some (.ticket escaped) => unescape? escaped
  | _ => none

theorem resource?_ne_of_asked {method path id : String} (asks : asked? method path = some id) :
    resource? method path ≠ some .newTicket := by
  intro issues
  simp [asked?, issues] at asks

namespace Event

def issues? : Event → Option String
  | request freshId method path _ =>
    if resource? method path = some .newTicket then some freshId else none
  | _ => none

def asks? : Event → Option String
  | request _ method path _ => asked? method path
  | _ => none

theorem issues?_of_asks {event : Event} {id : String} (asks : event.asks? = some id) :
    event.issues? = none := by
  cases event with
  | call step => rfl
  | redeemAfter polls => rfl
  | request freshId method path authorization => exact if_neg (resource?_ne_of_asked asks)

end Event

theorem serve_of_resource {server : MockServer} {freshId method path : String} {route : Route}
    (found : resource? method path = some route) (authorization : Option Octets) :
    server.serve freshId method path authorization =
      let answered := server.handle freshId route authorization
      (answered.1, if method = "HEAD" then { answered.2 with body := "" } else answered.2) := by
  obtain ⟨routed, allowed⟩ := Option.filter_eq_some_iff.mp found
  unfold serve
  simp only [routed, allowed, if_true]

/-- A request that no resource answers changes nothing. -/
theorem serve_of_unanswered {server : MockServer} {freshId method path : String}
    (unanswered : resource? method path = none) (authorization : Option Octets) :
    (server.serve freshId method path authorization).1 = server := by
  unfold serve
  split
  · rfl
  · rename_i route routed
    rw [resource?, routed] at unanswered
    split
    · rename_i allowed
      rw [Option.filter_some, if_pos allowed] at unanswered
      contradiction
    · rfl

theorem serve_get {server : MockServer} {freshId path : String} {route : Route}
    (found : resource? "GET" path = some route) (authorization : Option Octets) :
    server.serve freshId "GET" path authorization =
      server.handle freshId route authorization := by
  rw [serve_of_resource found]
  simp

/-- A ticket that is pending is due when it is asked about next. -/
def RedeemsItself (server : MockServer) (id : String) : Prop :=
  ∃ polls threshold, server.tickets.get? id = some ⟨polls, .pending⟩ ∧
    server.autoRedeemAfter = some threshold ∧ threshold ≤ polls + 1

/-- The server with an account for a token, unless the token has one. -/
def enroll (server : MockServer) (token : String) (account : MockAccount) : MockServer :=
  if (server.accounts.get? token).isSome then server else server.register token account

def autoStatus (id : String) : TicketStatus :=
  .redeemed (autoToken id) autoAccount.profileValue

/-- What comes of a question about a ticket. -/
inductive Polled (server : MockServer) (id : String) : MockServer × Reply → Prop where
  | unknown (absent : server.tickets.get? id = none) :
      Polled server id (server, .text .notFound "authentication id not found\n")
  | redeemed {polls : Nat} (there : server.tickets.get? id = some ⟨polls, .pending⟩)
      (itself : server.RedeemsItself id) :
      Polled server id
        (({ server with tickets := server.tickets.insert id ⟨polls + 1, autoStatus id⟩ }).enroll
          (autoToken id) autoAccount, statusReply (autoStatus id))
  | told {ticket : IssuedTicket} (there : server.tickets.get? id = some ticket)
      (still : ¬ server.RedeemsItself id) :
      Polled server id
        ({ server with tickets := server.tickets.insert id ⟨ticket.polls + 1, ticket.status⟩ },
          statusReply ticket.status)

theorem polled_poll (server : MockServer) (id : String) : Polled server id (server.poll id) := by
  unfold poll
  cases there : server.tickets.get? id with
  | none => exact .unknown there
  | some ticket =>
      obtain ⟨polls, status⟩ := ticket
      dsimp only
      split
      · rename_i due
        split at due
        · rename_i threshold after
          exact .redeemed there ⟨polls, threshold, there, after, of_decide_eq_true due⟩
        · contradiction
      · rename_i early
        refine .told there ?_
        rintro ⟨_, threshold, same, after, reached⟩
        obtain ⟨rfl, rfl⟩ := IssuedTicket.mk.inj (Option.some.inj (there.symm.trans same))
        exact early (by simp only [after, reached, decide_true])

section Changes

variable (server : MockServer) (token : String)

@[simp]
theorem tickets_changeAccount (change : MockAccount → MockAccount) :
    (server.changeAccount token change).tickets = server.tickets := by
  unfold changeAccount
  split <;> rfl

@[simp]
theorem tickets_enroll (account : MockAccount) :
    (server.enroll token account).tickets = server.tickets := by
  unfold enroll
  split <;> rfl

@[simp]
theorem accounts_changeTicket (ticket : String) (status : TicketStatus) :
    (server.changeTicket ticket status).accounts = server.accounts := by
  unfold changeTicket
  split <;> rfl

theorem get?_changeTicket (ticket : String) (status : TicketStatus) (id : String) :
    (server.changeTicket ticket status).tickets.get? id =
      if ticket = id then (server.tickets.get? id).map ({ · with status })
      else server.tickets.get? id := by
  unfold changeTicket
  cases there : server.tickets.get? ticket with
  | none =>
      dsimp only
      split
      · rename_i same
        rw [← same, there]
        rfl
      · rfl
  | some issued =>
      by_cases same : ticket = id
      · subst same
        simp [there]
      · simp [same, Ne.symm same]

theorem get?_changeAccount (change : MockAccount → MockAccount) (other : String) :
    (server.changeAccount token change).accounts.get? other =
      if token = other then (server.accounts.get? other).map change
      else server.accounts.get? other := by
  unfold changeAccount
  cases there : server.accounts.get? token with
  | none =>
      dsimp only
      split
      · rename_i same
        rw [← same, there]
        rfl
      · rfl
  | some account =>
      by_cases same : token = other
      · subst same
        simp [there, register]
      · simp [same, Ne.symm same, register]

theorem unmute_fst (username : String) (authorization : Option Octets) :
    (server.unmute username authorization).1 = server ∨
      ∃ token, bearer? authorization = some token ∧
        (server.unmute username authorization).1 = server.changeAccount token fun account =>
          { account with mutedUsers := account.mutedUsers.filter (· != username) } := by
  unfold unmute
  split
  · exact .inl rfl
  · rename_i token carried
    split
    · exact .inl rfl
    · rename_i account there
      split
      · exact .inr ⟨token, carried, by simp [changeAccount, there]⟩
      · exact .inl rfl

end Changes

/-- What a request leaves of the server. -/
inductive Served (server : MockServer) (freshId method path : String)
    (authorization : Option Octets) : MockServer → Prop where
  | issued (issues : resource? method path = some .newTicket) :
      Served server freshId method path authorization (server.issue freshId).1
  | polled {id : String} (asks : asked? method path = some id) :
      Served server freshId method path authorization (server.poll id).1
  | unmuted {escaped username token : String}
      (found : resource? method path = some (.mutedUser escaped))
      (carried : bearer? authorization = some token) :
      Served server freshId method path authorization
        (server.changeAccount token fun account =>
          { account with mutedUsers := account.mutedUsers.filter (· != username) })
  | unmoved (unissued : resource? method path ≠ some .newTicket)
      (unasked : asked? method path = none) :
      Served server freshId method path authorization server

theorem served_step (server : MockServer) (freshId method path : String)
    (authorization : Option Octets) :
    Served server freshId method path authorization
      (server.step (.request freshId method path authorization)) := by
  show Served _ _ _ _ _ (server.serve freshId method path authorization).1
  cases found : resource? method path with
  | none =>
      rw [serve_of_unanswered found]
      exact .unmoved (by simp [found]) (by simp [asked?, found])
  | some route =>
      rw [serve_of_resource found]
      cases route with
      | newTicket => exact .issued found
      | check | profile => exact .unmoved (by simp [found]) (by simp [asked?, found])
      | ticket escaped =>
          have asked : asked? method path = unescape? escaped := by simp [asked?, found]
          dsimp only [handle]
          cases unescaped : unescape? escaped with
          | none => exact .unmoved (by simp [found]) (asked.trans unescaped)
          | some id => exact .polled (asked.trans unescaped)
      | mutedUser escaped =>
          have still : Served server freshId method path authorization server :=
            .unmoved (by simp [found]) (by simp [asked?, found])
          dsimp only [handle]
          cases unescape? escaped with
          | none => exact still
          | some username =>
              rcases unmute_fst server username authorization with same | ⟨token, carried, same⟩
              · rw [same]
                exact still
              · rw [same]
                exact .unmuted found carried

/-- Whether an event is about the account behind a token: a call or a request that names the
token, or a question about the ticket that would redeem itself with it. -/
def Event.touches (token : String) : Event → Prop
  | call (.register other _) | call (.revoke other) | call (.setReputation other _ _)
  | call (.mute other _) => other = token
  | call _ | redeemAfter _ => False
  | request _ method path authorization =>
    (∃ id, asked? method path = some id ∧ autoToken id = token) ∨
      ∃ name, resource? method path = some (.mutedUser name) ∧
        bearer? authorization = some token

section Frame

variable {server : MockServer} {token : String}

theorem get?_enroll (other : String) (account : MockAccount) :
    (server.enroll other account).accounts.get? token =
      if other = token then (server.accounts.get? token).or (some account)
      else server.accounts.get? token := by
  unfold enroll
  cases there : server.accounts.get? other with
  | none =>
      by_cases same : other = token
      · subst same
        simp [register, there]
      · simp [register, same, Ne.symm same]
  | some held =>
      by_cases same : other = token
      · subst same
        simp [there]
      · simp [same]

theorem get?_poll_of_untouched {id : String} (other : autoToken id ≠ token) :
    (server.poll id).1.accounts.get? token = server.accounts.get? token := by
  have polled := polled_poll server id
  generalize server.poll id = answered at polled
  cases polled with
  | unknown => rfl
  | redeemed => rw [get?_enroll, if_neg other]
  | told => rfl

/-- An event that is not about a token leaves the account behind it as it is. -/
theorem get?_step_of_untouched {event : Event} (untouched : ¬ event.touches token) :
    (server.step event).accounts.get? token = server.accounts.get? token := by
  cases event with
  | redeemAfter polls => rfl
  | call call =>
      cases call with
      | register other account => exact Dictionary.get?_insert_of_ne _ _ (Ne.symm untouched)
      | revoke other => exact Dictionary.get?_erase_of_ne _ (Ne.symm untouched)
      | setReputation other reputation data =>
          exact (get?_changeAccount server other _ token).trans (if_neg untouched)
      | mute other username =>
          exact (get?_changeAccount server other _ token).trans (if_neg untouched)
      | redeem ticket other =>
          show (server.redeem ticket other).accounts.get? token = _
          unfold redeem
          split
          · rw [accounts_changeTicket]
          · rfl
      | redeemUnregistered ticket other account =>
          show (server.changeTicket _ _).accounts.get? token = _
          rw [accounts_changeTicket]
      | failTicket ticket message =>
          show (server.changeTicket _ _).accounts.get? token = _
          rw [accounts_changeTicket]
      | _ => rfl
  | request freshId method path authorization =>
      have served := served_step server freshId method path authorization
      generalize server.step (.request freshId method path authorization) = after at served
      cases served with
      | issued => rfl
      | polled asks =>
          exact get?_poll_of_untouched fun named => untouched (.inl ⟨_, asks, named⟩)
      | @unmuted _ _ other found carried =>
          refine (get?_changeAccount server other _ token).trans (if_neg ?_)
          rintro rfl
          exact untouched (.inr ⟨_, found, carried⟩)
      | unmoved => rfl

end Frame

end MockServer

end SignIn
