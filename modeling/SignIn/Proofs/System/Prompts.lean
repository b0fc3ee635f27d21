import SignIn.Proofs.System.Cancellation
import SignIn.Proofs.System.Requests

/-!
# What a prompt does in one event

A prompt that is called for a ticket returns the one it has, or asks for one and waits.  Once a
call has its ticket it may start a poller; that is decided at this moment, by whether the prompt
holds a poller already and whether someone is signed in.  All else that can happen to a prompt
only moves its poller on or releases it.  No other event changes a prompt, but a restart ends it.
-/

namespace SignIn

namespace System

theorem number_lt_of_prompt? {system : System} {number : Nat} {opened : OpenPrompt}
    (there : system.prompt? number = some opened) : number < system.prompts.length := by
  obtain ⟨small, _⟩ := List.getElem?_eq_some_iff.mp (Option.join_eq_some_iff.mp there)
  exact small

theorem prompt?_withPrompt {system : System} {number : Nat} (small : number < system.prompts.length)
    (opened : Option OpenPrompt) : (system.withPrompt number opened).prompt? number = opened := by
  rw [prompt?, withPrompt, List.getElem?_set_self small]
  rfl

def ticketHeard (system : System) (answer : Answer) : Except FetchError Ticket :=
  (heard system.client.ticketRequest? answer).ticket

/-- What a call to start does about polling once it has its ticket: it leaves the prompt alone,
or it starts a poller for the ticket. -/
inductive Decides (before : System) (number : Nat) (prompt : Prompt Nat) (ticket : Ticket)
    (after : System) : Prop where
  | leaves (held : prompt.poller ≠ none ∨ before.controller.session ≠ .anonymous)
      (now : after.prompt? number = some { prompt }) (pollers : after.pollers = before.pollers)
  | starts (free : prompt.poller = none) (anonymous : before.controller.session = .anonymous)
      (now : after.prompt? number =
        some { prompt := { prompt with poller := some before.pollers.length } })
      (pollers : after.pollers = before.pollers ++
        [some ⟨{ ticket := ticket.id, interval := prompt.interval }, .prompt⟩])

/-- All that can happen to an open prompt. -/
inductive Prompted (before : System) (number : Nat) (opened : OpenPrompt)
    (action : PromptAction) (after : System) : Prop where
  | ignores (returned : before.returned? (.prompt number action) = none) (same : after = before)
  | asks (starts : Bool) (idle : opened.call = .idle)
      (called : action = if starts then .start else .ticket)
      (without : opened.prompt.ticket = none)
      (returned : before.returned? (.prompt number action) = none)
      (now : after.prompt? number = some { opened with call := .fetching starts })
      (pollers : after.pollers = before.pollers)
  | tells {ticket : Ticket} (idle : opened.call = .idle) (called : action = .ticket)
      (known : opened.prompt.ticket = some ticket)
      (returned : before.returned? (.prompt number action) = some (.ticket (.ok ticket)))
      (same : after = before)
  | decides {ticket : Ticket} (idle : opened.call = .idle) (called : action = .start)
      (known : opened.prompt.ticket = some ticket)
      (returned : before.returned? (.prompt number action) = some (.ticket (.ok ticket)))
      (decides : Decides before number opened.prompt ticket after)
  | fails {starts : Bool} {answer : Answer} {error : FetchError}
      (fetching : opened.call = .fetching starts) (called : action = .receive answer)
      (heard : before.ticketHeard answer = .error error)
      (returned : before.returned? (.prompt number action) =
        some (.ticket (.error (.begin error))))
      (now : after.prompt? number = some { prompt := { opened.prompt with ticket := none } })
      (pollers : after.pollers = before.pollers)
  | brings {answer : Answer} {ticket : Ticket} (fetching : opened.call = .fetching false)
      (called : action = .receive answer) (heard : before.ticketHeard answer = .ok ticket)
      (returned : before.returned? (.prompt number action) = some (.ticket (.ok ticket)))
      (now : after.prompt? number =
        some { prompt := { opened.prompt with ticket := some ticket } })
      (pollers : after.pollers = before.pollers)
  | bringsAndDecides {answer : Answer} {ticket : Ticket} (fetching : opened.call = .fetching true)
      (called : action = .receive answer) (heard : before.ticketHeard answer = .ok ticket)
      (returned : before.returned? (.prompt number action) = some (.ticket (.ok ticket)))
      (decides : Decides before number { opened.prompt with ticket := some ticket } ticket after)
  | gives {starts : Bool} (fetching : opened.call = .fetching starts) (called : action = .leave)
      (returned : before.returned? (.prompt number action) = none)
      (now : after.prompt? number = some { opened with call := .idle })
      (pollers : after.pollers = before.pollers)
  | takes {task : Nat} (idle : opened.call = .idle) (called : action = .wait)
      (held : opened.prompt.poller = some task)
      (returned : before.returned? (.prompt number action) = none)
      (now : after.prompt? number =
        some { prompt := { opened.prompt with poller := none }, call := .waiting task })
      (pollers : after.pollers = before.pollers)
  | releases {task : Nat} (waiting : opened.call = .waiting task) (called : action = .leave)
      (returned : before.returned? (.prompt number action) = none)
      (now : after.prompt? number = some { opened with call := .idle })
      (pollers : after.pollers = (before.release task).pollers)
  | closes (idle : opened.call = .idle) (called : action = .close ∨ action = .drop)
      (returned : before.returned? (.prompt number action) = none)
      (now : after.prompt? number = none)
      (pollers : after.pollers = match opened.prompt.poller with
        | none => before.pollers
        | some task => (before.release task).pollers)

section Prompted

variable {system : System} {number : Nat} {opened : OpenPrompt}

theorem returned?_prompt (there : system.prompt? number = some opened) (action : PromptAction) :
    system.returned? (.prompt number action) =
      (system.promptReturned? opened action).map .ticket := by
  simp only [returned?, there, Option.bind_some]

theorem decides_startPrompt (there : system.prompt? number = some opened)
    {prompt : Prompt Nat} (ticket : Ticket) :
    Decides system number prompt ticket (system.startPrompt number { prompt } ticket) := by
  have small := number_lt_of_prompt? there
  unfold startPrompt Prompt.pollerToStart?
  by_cases free : prompt.poller = none
  · cases session : system.controller.session with
    | anonymous =>
        rw [if_pos (by simp [free, Session.isAuthenticated])]
        exact .starts free session (prompt?_withPrompt small _) rfl
    | authenticated signedIn =>
        rw [if_neg (by simp [Session.isAuthenticated])]
        exact .leaves (.inr (by simp [session])) (prompt?_withPrompt small _) rfl
  · rw [if_neg (by simp [free])]
    exact .leaves (.inl free) (prompt?_withPrompt small _) rfl

theorem prompted_getTicket (there : system.prompt? number = some opened)
    (idle : opened.call = .idle) (starts : Bool) :
    Prompted system number opened (if starts then .start else .ticket)
      (system.getTicket number opened starts) := by
  have small := number_lt_of_prompt? there
  have returned : system.returned? (.prompt number (if starts then .start else .ticket)) =
      opened.prompt.ticket.map fun ticket => .ticket (.ok ticket) := by
    rw [returned?_prompt there]
    cases starts <;> simp [promptReturned?, idle, Function.comp_def]
  unfold getTicket
  cases known : opened.prompt.ticket with
  | none =>
      rw [known] at returned
      exact .asks starts idle rfl known returned (prompt?_withPrompt small _) rfl
  | some ticket =>
      rw [known] at returned
      cases starts with
      | false => exact .tells idle rfl known returned rfl
      | true =>
          have bare : opened = { prompt := opened.prompt } := by rw [← idle]
          have decides : Decides system number opened.prompt ticket
              (system.startPrompt number { prompt := opened.prompt } ticket) :=
            decides_startPrompt there ticket
          rw [← bare] at decides
          exact .decides idle rfl known returned decides

theorem Decides.of_heard {request : Option Request} {answer : Answer} {prompt : Prompt Nat}
    {ticket : Ticket} {after : System}
    (decides : Decides (system.hear request answer).1 number prompt ticket after) :
    Decides system number prompt ticket after := by
  cases request with
  | none => exact decides
  | some request =>
      cases decides with
      | leaves held now pollers => exact .leaves held now pollers
      | starts free anonymous now pollers => exact .starts free anonymous now pollers

theorem prompt?_hear (request : Option Request) (answer : Answer) :
    (system.hear request answer).1.prompt? number = system.prompt? number := by
  cases request <;> rfl

theorem prompted_receiveTicket (there : system.prompt? number = some opened) {starts : Bool}
    (fetching : opened.call = .fetching starts) (answer : Answer) :
    Prompted system number opened (.receive answer)
      (system.receiveTicket number opened starts answer) := by
  have returned : system.returned? (.prompt number (.receive answer)) = some (.ticket
      (opened.prompt.receiveTicket (heard system.client.ticketRequest? answer)).2) := by
    rw [returned?_prompt there]
    simp only [promptReturned?, fetching, hear_snd, Option.map_some]
  have told : system.ticketHeard answer = (heard system.client.ticketRequest? answer).ticket := rfl
  unfold receiveTicket
  simp only
  rw [hear_snd]
  -- What the request is has no part in what becomes of the prompt.
  generalize system.client.ticketRequest? = request at returned told ⊢
  have pollers := pollers_hear system request answer
  have thereStill : (system.hear request answer).1.prompt? number = some opened := by
    rw [prompt?_hear, there]
  have small := number_lt_of_prompt? thereStill
  unfold Prompt.receiveTicket at returned ⊢
  cases came : (heard request answer).ticket with
  | error error =>
      rw [came] at told
      simp only [came] at returned ⊢
      exact .fails fetching rfl told returned (prompt?_withPrompt small _) pollers
  | ok ticket =>
      rw [came] at told
      simp only [came] at returned ⊢
      cases starts with
      | false => exact .brings fetching rfl told returned (prompt?_withPrompt small _) pollers
      | true =>
          exact .bringsAndDecides fetching rfl told returned
            (decides_startPrompt thereStill ticket).of_heard

theorem prompts_release (task : Nat) : (system.release task).prompts = system.prompts := by
  unfold release
  split <;> rfl

theorem prompted_closePrompt (there : system.prompt? number = some opened)
    (idle : opened.call = .idle) {action : PromptAction}
    (called : action = .close ∨ action = .drop) :
    Prompted system number opened action (system.closePrompt number opened) := by
  have small := number_lt_of_prompt? there
  have returned : system.returned? (.prompt number action) = none := by
    rw [returned?_prompt there]
    rcases called with rfl | rfl <;> rfl
  unfold closePrompt
  cases held : opened.prompt.poller with
  | none =>
      refine .closes idle called returned (prompt?_withPrompt small _) ?_
      rw [held]
      rfl
  | some task =>
      refine .closes idle called returned (prompt?_withPrompt ?_ _) ?_
      · rwa [prompts_release]
      · rw [held]
        rfl

theorem prompted_step (there : system.prompt? number = some opened) (action : PromptAction) :
    Prompted system number opened action (system.step (.prompt number action)) := by
  have small := number_lt_of_prompt? there
  have moved : system.step (.prompt number action) = system.actPrompt number opened action :=
    prompt_of_there there action
  have returned := returned?_prompt there action
  rw [moved]
  unfold actPrompt
  cases call : opened.call with
  | idle =>
      cases action with
      | ticket => exact prompted_getTicket there call false
      | start => exact prompted_getTicket there call true
      | receive answer => exact .ignores (by simp [returned, promptReturned?, call]) rfl
      | wait =>
          simp only
          split
          · exact .ignores returned rfl
          · rename_i task prompt taken
            obtain ⟨held, rfl⟩ := Prod.mk.inj taken
            exact .takes call rfl held returned (prompt?_withPrompt small _) rfl
      | leave => exact .ignores returned rfl
      | close => exact prompted_closePrompt there call (.inl rfl)
      | drop => exact prompted_closePrompt there call (.inr rfl)
  | fetching starts =>
      have silent (quiet : ∀ answer, action ≠ .receive answer) :
          system.returned? (.prompt number action) = none := by
        rw [returned]
        cases action <;> simp_all [promptReturned?]
      cases action with
      | receive answer => exact prompted_receiveTicket there call answer
      | leave => exact .gives call rfl returned (prompt?_withPrompt small _) rfl
      | _ => exact .ignores (silent (by simp)) rfl
  | waiting task =>
      have silent : system.returned? (.prompt number action) = none := by
        rw [returned]
        cases action <;> simp [promptReturned?, call]
      cases action with
      | leave =>
          refine .releases call rfl silent (prompt?_withPrompt ?_ _) rfl
          rwa [prompts_release]
      | _ => exact .ignores silent rfl

/-- What an answer makes of a prompt that waits for its ticket, and of the call that waits. -/
inductive Answered (before : System) (number : Nat) (opened : OpenPrompt) (starts : Bool)
    (answer : Answer) (after : System) : Prop where
  | fails {error : FetchError} (heard : before.ticketHeard answer = .error error)
      (returned : before.returned? (.prompt number (.receive answer)) =
        some (.ticket (.error (.begin error))))
      (now : after.prompt? number = some { prompt := { opened.prompt with ticket := none } })
  | brings {ticket : Ticket} (heard : before.ticketHeard answer = .ok ticket)
      (returned : before.returned? (.prompt number (.receive answer)) =
        some (.ticket (.ok ticket)))
      (decides : starts = true →
        Decides before number { opened.prompt with ticket := some ticket } ticket after)

theorem answered_step (there : system.prompt? number = some opened) {starts : Bool}
    (fetching : opened.call = .fetching starts) (answer : Answer) :
    Answered system number opened starts answer
      (system.step (.prompt number (.receive answer))) := by
  cases prompted_step there (.receive answer) with
  | fails _ called heard returned now _ =>
      obtain rfl := PromptAction.receive.inj called
      exact .fails heard returned now
  | brings quiet called heard returned _ _ =>
      obtain rfl := PromptAction.receive.inj called
      obtain rfl := PromptCall.fetching.inj (fetching.symm.trans quiet)
      exact .brings heard returned nofun
  | bringsAndDecides _ called heard returned decides =>
      obtain rfl := PromptAction.receive.inj called
      exact .brings heard returned fun _ => decides
  | ignores returned _ =>
      rw [returned?_prompt there] at returned
      simp [promptReturned?, fetching] at returned
  | asks starts _ called => cases starts <;> contradiction
  | tells _ called => contradiction
  | decides _ called => contradiction
  | gives _ called => contradiction
  | takes _ called => contradiction
  | releases _ called => contradiction
  | closes _ called => rcases called with called | called <;> contradiction

end Prompted

section Others

variable (system : System)

theorem prompts_login (session : SignedIn) : (system.login session).prompts = system.prompts := by
  unfold login
  split <;> rfl

theorem prompts_loginIfAnonymous (cancelled : Bool) (session : SignedIn) :
    (system.loginIfAnonymous cancelled session).prompts = system.prompts := by
  unfold loginIfAnonymous
  split <;> rfl

theorem prompts_beginLinkLogin (input : String) :
    (system.beginLinkLogin input).prompts = system.prompts := by
  unfold beginLinkLogin
  split <;> rfl

theorem prompts_hear (request : Option Request) (answer : Answer) :
    (system.hear request answer).1.prompts = system.prompts := by
  cases request <;> rfl

theorem prompts_endTokenLogin (number : Nat) (answer : Answer) :
    (system.endTokenLogin number answer).prompts = system.prompts := by
  unfold endTokenLogin
  split
  · rfl
  · rename_i token waits
    have heard := system.prompts_hear (system.client.accountRequest? token) answer
    simp only
    split <;> exact heard

theorem prompts_beginValidation : system.beginValidation.prompts = system.prompts := by
  unfold beginValidation
  split <;> rfl

theorem prompts_endValidation (number : Nat) (answer : Answer) :
    (system.endValidation number answer).prompts = system.prompts := by
  unfold endValidation
  split
  · rfl
  · exact system.prompts_hear _ answer

theorem prompts_poll (number : Nat) (action : PollAction) :
    (system.poll number action).prompts = system.prompts := by
  unfold poll
  split
  · rfl
  · cases action with
    | ask =>
        simp only
        split <;> rfl
    | receive answer =>
        simp only [receive]
        split
        · rfl
        · exact system.prompts_hear _ answer
    | commit =>
        simp only [commitPoll]
        split <;> rfl
    | _ => rfl

theorem prompts_handle (number : Nat) (action : HandleAction) :
    (system.handle number action).prompts = system.prompts := by
  unfold handle
  split
  · rfl
  · split
    · rfl
    · exact prompts_release number
    · rfl
    · exact prompts_release number
    · rfl

def SamePrompts (number : Nat) (before after : System) : Prop :=
  after.prompts = before.prompts ∨ ∃ opened, after.prompts = before.prompts.set number opened

theorem samePrompts_withPrompt {after : System} (same : after.prompts = system.prompts)
    (number : Nat) (opened : Option OpenPrompt) :
    SamePrompts number system (after.withPrompt number opened) :=
  .inr ⟨opened, by rw [withPrompt, same]⟩

theorem samePrompts_startPrompt {after : System} (same : after.prompts = system.prompts)
    (number : Nat) (opened : OpenPrompt) (ticket : Ticket) :
    SamePrompts number system (after.startPrompt number opened ticket) := by
  unfold startPrompt
  split
  · exact system.samePrompts_withPrompt same number _
  · exact system.samePrompts_withPrompt same number _

theorem samePrompts_getTicket (number : Nat) (opened : OpenPrompt) (starts : Bool) :
    SamePrompts number system (system.getTicket number opened starts) := by
  unfold getTicket
  split
  · exact system.samePrompts_withPrompt rfl number _
  · split
    · exact system.samePrompts_startPrompt rfl number opened _
    · exact .inl rfl

theorem samePrompts_receiveTicket (number : Nat) (opened : OpenPrompt) (starts : Bool)
    (answer : Answer) :
    SamePrompts number system (system.receiveTicket number opened starts answer) := by
  have same := system.prompts_hear system.client.ticketRequest? answer
  unfold receiveTicket
  revert same
  generalize system.hear system.client.ticketRequest? answer = result
  intro same
  simp only
  split
  · exact system.samePrompts_withPrompt same number _
  · split
    · exact system.samePrompts_startPrompt same number _ _
    · exact system.samePrompts_withPrompt same number _

theorem samePrompts_closePrompt (number : Nat) (opened : OpenPrompt) :
    SamePrompts number system (system.closePrompt number opened) := by
  unfold closePrompt
  split
  · exact system.samePrompts_withPrompt rfl number _
  · exact system.samePrompts_withPrompt (prompts_release _) number _

theorem samePrompts_actPrompt (number : Nat) (opened : OpenPrompt) (action : PromptAction) :
    SamePrompts number system (system.actPrompt number opened action) := by
  unfold actPrompt
  split
  · cases action with
    | ticket => exact system.samePrompts_getTicket number opened false
    | start => exact system.samePrompts_getTicket number opened true
    | wait =>
        simp only
        split
        · exact .inl rfl
        · exact system.samePrompts_withPrompt rfl number _
    | close => exact system.samePrompts_closePrompt number opened
    | drop => exact system.samePrompts_closePrompt number opened
    | _ => exact .inl rfl
  · cases action with
    | receive answer => exact system.samePrompts_receiveTicket number opened _ answer
    | leave => exact system.samePrompts_withPrompt rfl number _
    | _ => exact .inl rfl
  · cases action with
    | leave => exact system.samePrompts_withPrompt (prompts_release _) number _
    | _ => exact .inl rfl

theorem samePrompts_prompt (number : Nat) (action : PromptAction) :
    SamePrompts number system (system.prompt number action) := by
  unfold prompt
  split
  · exact .inl rfl
  · exact system.samePrompts_actPrompt number _ action

theorem SamePrompts.length {number : Nat} {before after : System}
    (same : SamePrompts number before after) : after.prompts.length = before.prompts.length := by
  rcases same with same | ⟨opened, same⟩
  · rw [same]
  · rw [same, List.length_set]

/-- What another event makes of a prompt: nothing, or it is gone with all pollers. -/
inductive Remains (number : Nat) (before after : System) : Prop where
  | stays (small : number < after.prompts.length)
      (same : after.prompt? number = before.prompt? number)
  | gone (small : number < after.prompts.length) (now : after.prompt? number = none)
      (nothing : ∀ task, after.poller? task = none)

theorem remains_of_prompts_eq {number : Nat} {after : System}
    (small : number < system.prompts.length) (same : after.prompts = system.prompts) :
    Remains number system after :=
  .stays (by rwa [same]) (by rw [prompt?, same, prompt?])

/-- A prompt stays what it is in all events but its own, or everything ends. -/
theorem remains_step {number : Nat} (small : number < system.prompts.length) {event : Event}
    (other : ∀ action, event ≠ .prompt number action) :
    Remains number system (system.step event) := by
  cases event with
  | refuse refusal => exact system.remains_of_prompts_eq small rfl
  | login session => exact system.remains_of_prompts_eq small (system.prompts_login session)
  | loginIfAnonymous cancelled session =>
      exact system.remains_of_prompts_eq small (system.prompts_loginIfAnonymous cancelled session)
  | logout => exact system.remains_of_prompts_eq small rfl
  | reload later => exact system.remains_of_prompts_eq small rfl
  | restart later =>
      refine .gone ?_ ?_ fun task => ?_
      · simpa [step, restart] using small
      · simp [step, restart, prompt?, small]
      · show (system.pollers.map fun _ => (none : Option PollTask))[task]?.join = none
        rw [List.getElem?_map]
        cases system.pollers[task]? <;> rfl
  | beginTokenLogin token => exact system.remains_of_prompts_eq small rfl
  | beginLinkLogin input =>
      exact system.remains_of_prompts_eq small (system.prompts_beginLinkLogin input)
  | endTokenLogin number answer =>
      exact system.remains_of_prompts_eq small (system.prompts_endTokenLogin number answer)
  | beginValidation => exact system.remains_of_prompts_eq small system.prompts_beginValidation
  | endValidation number answer =>
      exact system.remains_of_prompts_eq small (system.prompts_endValidation number answer)
  | startPolling ticket interval => exact system.remains_of_prompts_eq small rfl
  | poll number action =>
      exact system.remains_of_prompts_eq small (system.prompts_poll number action)
  | handle number action =>
      exact system.remains_of_prompts_eq small (system.prompts_handle number action)
  | openPrompt interval =>
      have grown : (system.step (.openPrompt interval)).prompts =
          system.prompts ++ [some { prompt := { interval } }] := rfl
      refine .stays ?_ ?_
      · rw [grown, List.length_append]
        exact Nat.lt_add_right _ small
      · rw [prompt?, grown, List.getElem?_append_left small, prompt?]
  | prompt found action =>
      have apart : found ≠ number := by
        rintro rfl
        exact other action rfl
      rcases system.samePrompts_prompt found action with same | ⟨opened, same⟩
      · exact system.remains_of_prompts_eq small same
      · refine .stays ?_ ?_
        · rw [step, same, List.length_set]
          exact small
        · rw [step, prompt?, same, List.getElem?_set_ne apart, prompt?]

end Others

end System

end SignIn
