import SignIn.Proofs.System.Change
import SignIn.Proofs.Client

/-!
# Calls that wait for an answer

A login with a token and a check of a bearer are two events: one before the wait for the
answer and one after it.  Whatever happens between them, the call keeps its number and
what it was begun with, until it is ended or a restart ends everything.  What it does when
it ends depends on what the controller holds by then.
-/

namespace SignIn

/-- A call that waits for an answer, by its number. -/
inductive Call where
  | tokenLogin (number : Nat)
  | validation (number : Nat)
  deriving DecidableEq, Repr

/-- Whether an event ends a call. -/
def Event.ends : Event → Call → Bool
  | .endTokenLogin number _, .tokenLogin other => number = other
  | .endValidation number _, .validation other => number = other
  | .restart _, _ => true
  | _, _ => false

/-- What an operation returns to whoever called it.  A link that is not used is told apart
from a login with its token. -/
inductive Returned where
  | login (result : Except StoreError Unit)
  | attempt (result : Except StoreError LoginAttempt)
  | unused
  | tokenLogin (result : Except SessionError Unit)
  | validation (result : Validation)
  | ticket (result : Except SessionError Ticket)

namespace System

/-- The token or the bearer of a call that waits. -/
def pending? (system : System) : Call → Option String
  | .tokenLogin number => system.tokenLogins[number]?.join
  | .validation number => system.validations[number]?.join

/-- The ticket that a prompt returns, or why it has none. -/
def promptReturned? (system : System) (opened : OpenPrompt) :
    PromptAction → Option (Except SessionError Ticket)
  | .ticket =>
    match opened.call with
    | .idle => opened.prompt.ticket.map .ok
    | _ => none
  | .start =>
    match opened.call with
    | .idle => opened.prompt.ticket.map .ok
    | _ => none
  | .receive answer =>
    match opened.call with
    | .fetching _ =>
      some (opened.prompt.receiveTicket (system.hear system.client.ticketRequest? answer).2).2
    | _ => none
  | _ => none

/-- What is returned in an event, if something is. -/
def returned? (system : System) : Event → Option Returned
  | .login session => some (.login (system.controller.login session).2)
  | .loginIfAnonymous cancelled session =>
    some (.attempt (system.controller.loginIfAnonymous cancelled session).2)
  | .beginLinkLogin input =>
    if (system.controller.tokenToUse? input).isNone then some .unused else none
  | .endTokenLogin number answer =>
    (system.pending? (.tokenLogin number)).map fun token =>
      let answer := (system.hear (system.client.accountRequest? token) answer).2
      .tokenLogin (system.controller.finishTokenLogin token answer.account).2
  | .beginValidation =>
    if system.controller.session.bearer?.isNone then some (.validation .noSession) else none
  | .endValidation number answer =>
    (system.pending? (.validation number)).map fun bearer =>
      let answer := (system.hear (system.client.checkRequest? bearer) answer).2
      .validation (system.controller.finishValidation bearer answer.reputation).2
  | .prompt number action =>
    ((system.prompt? number).bind fun opened => system.promptReturned? opened action).map .ticket
  | _ => none

def waiting (system : System) : List (Option String) × List (Option String) :=
  (system.tokenLogins, system.validations)

theorem pending?_of_waiting_eq {before after : System} (same : after.waiting = before.waiting)
    (call : Call) : after.pending? call = before.pending? call := by
  obtain ⟨tokenLogins, validations⟩ := Prod.mk.inj same
  cases call with
  | tokenLogin number => simp only [pending?, tokenLogins]
  | validation number => simp only [pending?, validations]

section Waiting

variable (system : System)

@[simp]
theorem waiting_send (request : Option Request) : (system.send request).waiting = system.waiting :=
  rfl

@[simp]
theorem waiting_hear (request : Option Request) (answer : Answer) :
    (system.hear request answer).1.waiting = system.waiting := by
  cases request <;> rfl

@[simp]
theorem waiting_withPoller (number : Nat) (task : PollTask) :
    (system.withPoller number task).waiting = system.waiting :=
  rfl

@[simp]
theorem waiting_withPrompt (number : Nat) (opened : Option OpenPrompt) :
    (system.withPrompt number opened).waiting = system.waiting :=
  rfl

theorem waiting_login (session : SignedIn) : (system.login session).waiting = system.waiting := by
  unfold login
  split <;> rfl

theorem waiting_loginIfAnonymous (cancelled : Bool) (session : SignedIn) :
    (system.loginIfAnonymous cancelled session).waiting = system.waiting := by
  unfold loginIfAnonymous
  split <;> rfl

theorem waiting_poll (number : Nat) (action : PollAction) :
    (system.poll number action).waiting = system.waiting := by
  unfold poll
  split
  · rfl
  · cases action with
    | ask =>
        simp only
        split <;> rfl
    | receive answer =>
        simp only [receive]
        split
        · rfl
        · simp
    | commit =>
        simp only [commitPoll]
        split <;> rfl
    | _ => rfl

@[simp]
theorem waiting_release (number : Nat) : (system.release number).waiting = system.waiting := by
  unfold release
  split <;> rfl

theorem waiting_handle (number : Nat) (action : HandleAction) :
    (system.handle number action).waiting = system.waiting := by
  unfold handle
  split
  · rfl
  · split <;> simp

@[simp]
theorem waiting_startPrompt (number : Nat) (opened : OpenPrompt) (ticket : Ticket) :
    (system.startPrompt number opened ticket).waiting = system.waiting := by
  unfold startPrompt
  split <;> rfl

@[simp]
theorem waiting_getTicket (number : Nat) (opened : OpenPrompt) (starts : Bool) :
    (system.getTicket number opened starts).waiting = system.waiting := by
  unfold getTicket
  split
  · rfl
  · split <;> simp

@[simp]
theorem waiting_receiveTicket (number : Nat) (opened : OpenPrompt) (starts : Bool)
    (answer : Answer) :
    (system.receiveTicket number opened starts answer).waiting = system.waiting := by
  unfold receiveTicket
  simp only
  split
  · simp
  · split <;> simp

@[simp]
theorem waiting_closePrompt (number : Nat) (opened : OpenPrompt) :
    (system.closePrompt number opened).waiting = system.waiting := by
  unfold closePrompt
  split <;> simp

theorem waiting_prompt (number : Nat) (action : PromptAction) :
    (system.prompt number action).waiting = system.waiting := by
  unfold prompt
  split
  · rfl
  · rename_i opened _
    obtain ⟨prompt, call⟩ := opened
    cases call with
    | idle =>
        cases action with
        | wait =>
            unfold actPrompt
            simp only
            split <;> rfl
        | _ => simp [actPrompt]
    | fetching starts => cases action <;> simp [actPrompt]
    | waiting task => cases action <;> simp [actPrompt]

theorem waiting_beginValidation :
    system.beginValidation.waiting =
      (system.tokenLogins, system.validations ++
        (system.controller.session.bearer?.map some).toList) := by
  unfold beginValidation
  cases system.controller.session.bearer? with
  | none => simp [waiting]
  | some bearer => rfl

theorem waiting_endTokenLogin (number : Nat) (answer : Answer) :
    (system.endTokenLogin number answer).waiting =
        (system.tokenLogins.set number none, system.validations) ∨
      (system.endTokenLogin number answer).waiting = system.waiting := by
  unfold endTokenLogin
  split
  · exact .inr rfl
  · rename_i token _
    left
    have same := system.waiting_hear (system.client.accountRequest? token) answer
    revert same
    generalize system.hear (system.client.accountRequest? token) answer = result
    intro same
    obtain ⟨tokenLogins, validations⟩ := Prod.mk.inj same
    simp only
    split <;> simp only [waiting, commit, tokenLogins, validations]

theorem waiting_endValidation (number : Nat) (answer : Answer) :
    (system.endValidation number answer).waiting =
        (system.tokenLogins, system.validations.set number none) ∨
      (system.endValidation number answer).waiting = system.waiting := by
  unfold endValidation
  split
  · exact .inr rfl
  · rename_i bearer _
    left
    obtain ⟨tokenLogins, validations⟩ :=
      Prod.mk.inj (system.waiting_hear (system.client.checkRequest? bearer) answer)
    simp only [waiting, tokenLogins, validations]

end Waiting

theorem join_getElem?_append {table : List (Option String)} {number : Nat} {text : String}
    (there : table[number]?.join = some text) (later : List (Option String)) :
    (table ++ later)[number]?.join = some text := by
  have found : table[number]? = some (some text) := Option.join_eq_some_iff.mp there
  obtain ⟨small, _⟩ := List.getElem?_eq_some_iff.mp found
  rw [List.getElem?_append_left small]
  exact there

theorem join_getElem?_set_ne {table : List (Option String)} {number other : Nat} {text : String}
    (there : table[number]?.join = some text) (apart : other ≠ number) :
    (table.set other none)[number]?.join = some text := by
  rw [List.getElem?_set_ne apart]
  exact there

/-- A call that waits goes on waiting in every event that does not end it. -/
theorem pending?_step {system : System} {call : Call} {text : String}
    (waits : system.pending? call = some text) {event : Event} (spared : event.ends call = false) :
    (system.step event).pending? call = some text := by
  have same {after : System} (unchanged : after.waiting = system.waiting) :
      after.pending? call = some text := by
    rw [pending?_of_waiting_eq unchanged]
    exact waits
  cases event with
  | login session => exact same (waiting_login system session)
  | loginIfAnonymous cancelled session => exact same (waiting_loginIfAnonymous system _ _)
  | poll number action => exact same (waiting_poll system number action)
  | handle number action => exact same (waiting_handle system number action)
  | prompt number action => exact same (waiting_prompt system number action)
  | refuse refusal => exact same rfl
  | logout => exact same rfl
  | reload later => exact same rfl
  | startPolling ticket interval => exact same rfl
  | openPrompt interval => exact same rfl
  | restart later => simp [Event.ends] at spared
  | beginTokenLogin token =>
      cases call with
      | tokenLogin number => exact join_getElem?_append waits _
      | validation number => exact waits
  | beginLinkLogin input =>
      show (system.beginLinkLogin input).pending? call = some text
      unfold beginLinkLogin
      split
      · exact waits
      · cases call with
        | tokenLogin number => exact join_getElem?_append waits _
        | validation number => exact waits
  | endTokenLogin ended answer =>
      rcases waiting_endTokenLogin system ended answer with taken | unchanged
      · obtain ⟨tokenLogins, validations⟩ := Prod.mk.inj taken
        cases call with
        | tokenLogin number =>
            have apart : ended ≠ number := by simpa [Event.ends] using spared
            simp only [step, pending?, tokenLogins]
            exact join_getElem?_set_ne waits apart
        | validation number =>
            simp only [step, pending?, validations]
            exact waits
      · exact same unchanged
  | beginValidation =>
      obtain ⟨tokenLogins, validations⟩ := Prod.mk.inj (waiting_beginValidation system)
      cases call with
      | tokenLogin number =>
          simp only [step, pending?, tokenLogins]
          exact waits
      | validation number =>
          simp only [step, pending?, validations]
          exact join_getElem?_append waits _
  | endValidation ended answer =>
      rcases waiting_endValidation system ended answer with taken | unchanged
      · obtain ⟨tokenLogins, validations⟩ := Prod.mk.inj taken
        cases call with
        | tokenLogin number =>
            simp only [step, pending?, tokenLogins]
            exact waits
        | validation number =>
            have apart : ended ≠ number := by simpa [Event.ends] using spared
            simp only [step, pending?, validations]
            exact join_getElem?_set_ne waits apart
      · exact same unchanged

theorem pending?_run {system : System} {call : Call} {text : String}
    (waits : system.pending? call = some text) {events : List Event}
    (spared : ∀ event ∈ events, event.ends call = false) :
    (system.run events).pending? call = some text := by
  induction events generalizing system with
  | nil => exact waits
  | cons event events ih =>
      have stepped := pending?_step waits (spared event (List.mem_cons_self ..))
      exact ih stepped fun later member => spared later (List.mem_cons_of_mem event member)

section Ends

variable (system : System)

theorem pending?_beginTokenLogin (token : String) :
    (system.beginTokenLogin token).pending? (.tokenLogin system.tokenLogins.length) =
      some token := by
  have begun : (system.beginTokenLogin token).tokenLogins = system.tokenLogins ++ [some token] :=
    rfl
  simp [pending?, begun]

theorem pending?_beginValidation {bearer : String}
    (held : system.controller.session.bearer? = some bearer) :
    system.beginValidation.pending? (.validation system.validations.length) = some bearer := by
  obtain ⟨_, begun⟩ := Prod.mk.inj (waiting_beginValidation system)
  simp [pending?, begun, held]

theorem controller_endTokenLogin {number : Nat} {token : String}
    (waits : system.pending? (.tokenLogin number) = some token) (answer : Answer) :
    (system.endTokenLogin number answer).controller =
      (system.controller.finishTokenLogin token
        (system.hear (system.client.accountRequest? token) answer).2.account).1 := by
  have there : system.tokenLogins[number]?.join = some token := waits
  have heard := (quiet_hear system (system.client.accountRequest? token) answer).controller
  unfold endTokenLogin
  rw [there]
  simp only
  rw [heard]
  split
  · rename_i ended
    rw [ended]
    rfl
  · rename_i ended _
    rw [ended]

theorem controller_endValidation {number : Nat} {bearer : String}
    (waits : system.pending? (.validation number) = some bearer) (answer : Answer) :
    (system.endValidation number answer).controller =
      (system.controller.finishValidation bearer
        (system.hear (system.client.checkRequest? bearer) answer).2.reputation).1 := by
  have there : system.validations[number]?.join = some bearer := waits
  have heard := (quiet_hear system (system.client.checkRequest? bearer) answer).controller
  unfold endValidation
  rw [there]
  simp only
  rw [heard]

end Ends

end System

namespace Answer

open Json in
def ticketOf (id : String) : Answer :=
  ofText (printObject [("id", printText id), ("url", printText ("https://e.test/" ++ id))])

open Json in
def redemptionOf (bearer : String) : Answer :=
  ofText (printObject [
    ("authToken", printText bearer),
    ("profile", printObject [("fid", printNatural 1), ("username", printText "alice")])])

open Json in
def reportOf (score : Nat) : Answer :=
  ofText (printObject [("reputation", printNatural score)])

open Json in
def accountOf (username : String) : Answer :=
  ofText (printObject [
    ("user", printObject [("userID", printNatural 1), ("username", printText username)]),
    ("reputation", printNatural 0)])

end Answer

end SignIn
