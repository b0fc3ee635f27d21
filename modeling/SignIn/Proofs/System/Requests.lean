import SignIn.Proofs.System.LinkLogin
import SignIn.Proofs.System.Polling
import SignIn.Proofs.Web.User

/-!
# Which credential goes where

Everything that is ever sent is sent for one of four purposes: for a ticket, about a ticket,
for the check of a bearer, or for the account behind a token.  The purpose decides the address
and the bearer, and no bearer goes with the first two.  What a bearer is sent for is decided
by one event alone: a validation takes the bearer that is held when it begins, a poller the one
that came with its redeemed ticket, a login the token that it was given.
-/

namespace SignIn

/-- What a request is for, with all that it depends on but the client. -/
inductive Purpose where
  | ticket
  | poll (id : String)
  | check (bearer : String)
  | account (token : String)
  deriving DecidableEq, Repr

namespace Purpose

def path : Purpose → String
  | ticket => "/auth"
  | poll id => "/auth/" ++ id
  | check _ => "/auth/check"
  | account _ => "/profile"

def bearer? : Purpose → Option String
  | ticket => none
  | poll _ => none
  | check bearer => some bearer
  | account token => some token

end Purpose

namespace Client

/-- The base of a client names no user. -/
def IsUserless (client : Client) : Prop :=
  ∀ root, Url.parse? (client.url "") = some root → root.IsUserless

/-- The request of a client for a purpose, unless it cannot be built. -/
def requestFor? (client : Client) (purpose : Purpose) : Option Request :=
  client.get? purpose.path purpose.bearer?

section RequestFor

variable (client : Client)

theorem requestFor?_ticket : client.requestFor? .ticket = client.ticketRequest? :=
  rfl

theorem requestFor?_poll (id : String) : client.requestFor? (.poll id) = client.pollRequest? id :=
  rfl

theorem requestFor?_check (bearer : String) :
    client.requestFor? (.check bearer) = client.checkRequest? bearer :=
  rfl

theorem requestFor?_account (token : String) :
    client.requestFor? (.account token) = client.accountRequest? token :=
  rfl

end RequestFor

/-- A request asks what it is for and proves no more than it has to: its only credential is the
bearer of its purpose. -/
structure AsksFor (client : Client) (purpose : Purpose) (request : Request) : Prop where
  method : request.method = "GET"
  url : Url.parse? (client.url purpose.path) = some request.url
  credentials : request.credentials = (purpose.bearer?.map .bearer).toList
  headers : request.credentials.map Credential.header =
    (purpose.bearer?.map fun bearer => Utf8.encode ("Bearer " ++ bearer)).toList
  body : request.body = ""

theorem beginsWithWord_path (purpose : Purpose) :
    Url.BeginsWithWord (Trim.leading (· = '/') purpose.path).toList := by
  have begins (word more : String) (plain : Url.isPlainSegment word = true)
      (ends : more.toList = [] ∨ ∃ later, more.toList = '/' :: later) :
      Url.BeginsWithWord (Trim.leading (· = '/') ("/" ++ word ++ more)).toList := by
    obtain ⟨first, others, letters, plainFirst⟩ := Url.exists_of_isPlainSegment plain
    have notSlash : first ≠ '/' := Url.ne_of_isPlain plainFirst rfl
    have written : (Trim.leading (· = '/') ("/" ++ word ++ more)).toList =
        word.toList ++ more.toList := by
      simp [Trim.leading, letters, notSlash]
    rw [written]
    refine .intro (by rw [letters]; simp) (fun character member => ?_) ends
    have onlyWord : ∀ segment ∈ [word], Url.isPlainSegment segment = true := by simpa using plain
    exact Url.isPlain_of_mem onlyWord word (by simp) character member
  cases purpose with
  | ticket => exact begins "auth" "" (by decide) (.inl rfl)
  | poll id =>
      have path : (Purpose.poll id).path = "/" ++ "auth" ++ ("/" ++ id) := by
        rw [← String.append_assoc]
        rfl
      rw [path]
      exact begins "auth" ("/" ++ id) (by decide) (.inr ⟨id.toList, by simp⟩)
  | check bearer => exact begins "auth" "/check" (by decide) (.inr ⟨"check".toList, by simp⟩)
  | account token => exact begins "profile" "" (by decide) (.inl rfl)

theorem asksFor_of_requestFor? {client : Client} (userless : client.IsUserless) {purpose : Purpose}
    {request : Request} (built : client.requestFor? purpose = some request) :
    client.AsksFor purpose request := by
  have builds := client.builds_call? "GET" purpose.path purpose.bearer? ""
  have built : client.call? "GET" purpose.path purpose.bearer? "" = some request := built
  rw [built] at builds
  cases builds with
  | @request address parsed legal =>
      have without : address.IsUserless := by
        refine Url.isUserless_of_base (fun root rooted => userless root ?_)
          (beginsWithWord_path purpose) parsed
        rwa [url_root]
      rw [Url.takeUser_of_empty without.username without.password]
      refine ⟨rfl, parsed, rfl, ?_, rfl⟩
      cases purpose.bearer? <;> rfl

/-- A request that carries a credential carries one bearer, to one of two addresses. -/
theorem AsksFor.of_carried {client : Client} {purpose : Purpose} {request : Request}
    (asks : client.AsksFor purpose request) {credential : Credential}
    (carried : credential ∈ request.credentials) :
    request.credentials = [credential] ∧ ∃ bearer, credential = .bearer bearer ∧
      (Url.parse? (client.url "/auth/check") = some request.url ∨
        Url.parse? (client.url "/profile") = some request.url) := by
  rw [asks.credentials] at carried ⊢
  have address := asks.url
  cases purpose with
  | ticket => contradiction
  | poll id => contradiction
  | check bearer =>
      obtain rfl := List.mem_singleton.mp carried
      exact ⟨rfl, bearer, rfl, .inl address⟩
  | account token =>
      obtain rfl := List.mem_singleton.mp carried
      exact ⟨rfl, token, rfl, .inr address⟩

end Client

/-- What a poller asks for when it moves. -/
def Poller.purpose? (poller : Poller) (client : Client) : PollAction → Option Purpose
  | .ask => if poller.phase = .resting then some (.poll poller.ticket) else none
  | .receive answer =>
    if poller.phase = .asking then
      match (System.heard (client.pollRequest? poller.ticket) answer).poll with
      | .redeemed redemption => some (.check redemption.bearer)
      | _ => none
    else none
  | _ => none

/-- What a prompt asks for: a ticket, if it is called for one and has none. -/
def OpenPrompt.purpose? (opened : OpenPrompt) : PromptAction → Option Purpose
  | .ticket => if opened.call = .idle ∧ opened.prompt.ticket = none then some .ticket else none
  | .start => if opened.call = .idle ∧ opened.prompt.ticket = none then some .ticket else none
  | _ => none

/-- An event of a poller or of a prompt. -/
inductive Event.IsSignIn : Event → Prop where
  | poll (number : Nat) (action : PollAction) : IsSignIn (.poll number action)
  | prompt (number : Nat) (action : PromptAction) : IsSignIn (.prompt number action)

namespace System

/-- What is asked for in an event, if anything is. -/
def purpose? (system : System) : Event → Option Purpose
  | .beginTokenLogin token => some (.account token)
  | .beginLinkLogin input => (system.controller.tokenToUse? input).map .account
  | .beginValidation => system.controller.session.bearer?.map .check
  | .poll number action =>
    (system.poller? number).bind fun task => task.poller.purpose? system.client action
  | .prompt number action => (system.prompt? number).bind fun opened => opened.purpose? action
  | _ => none

section Purpose

variable (system : System)

theorem purpose?_beginLinkLogin (input : String) :
    system.purpose? (.beginLinkLogin input) =
      (system.controller.tokenToUse? input).map .account :=
  rfl

theorem purpose?_beginValidation :
    system.purpose? .beginValidation = system.controller.session.bearer?.map .check :=
  rfl

theorem purpose?_poll (number : Nat) (action : PollAction) :
    system.purpose? (.poll number action) =
      (system.poller? number).bind fun task => task.poller.purpose? system.client action :=
  rfl

theorem purpose?_prompt (number : Nat) (action : PromptAction) :
    system.purpose? (.prompt number action) =
      (system.prompt? number).bind fun opened => opened.purpose? action :=
  rfl

end Purpose

/-- After an event one request more has been sent if it had a purpose and could be built. -/
def Spoke (before : System) (purpose : Option Purpose) (after : System) : Prop :=
  after.sent = before.sent ++ (purpose.bind before.client.requestFor?).toList

theorem spoke_of_sent_eq {before after : System} (same : after.sent = before.sent) :
    before.Spoke none after := by
  rw [Spoke, same]
  exact (List.append_nil _).symm

theorem sent_of_journal_eq {before after : System} (same : after.journal = before.journal) :
    after.sent = before.sent := by
  rw [sent, same, sent]

theorem spoke_send {before after : System} {purpose : Option Purpose} {request : Option Request}
    (same : after.sent = before.sent) (built : request = purpose.bind before.client.requestFor?) :
    before.Spoke purpose (after.send request) := by
  rw [Spoke, sent_send, same, built]

theorem spoke_sendFor {before after : System} {purpose : Purpose} {request : Option Request}
    (same : after.journal = before.journal)
    (built : before.client.requestFor? purpose = request) :
    before.Spoke (some purpose) (after.send request) := by
  refine spoke_send (sent_of_journal_eq same) ?_
  rw [Option.bind_some, built]

section Spoke

variable (system : System)

theorem sent_login (session : SignedIn) : (system.login session).sent = system.sent := by
  unfold login
  split
  · exact sent_commit system _ _
  · rfl

theorem sent_loginIfAnonymous (cancelled : Bool) (session : SignedIn) :
    (system.loginIfAnonymous cancelled session).sent = system.sent := by
  unfold loginIfAnonymous
  split
  · exact sent_commit system _ _
  · rfl

theorem sent_endTokenLogin (number : Nat) (answer : Answer) :
    (system.endTokenLogin number answer).sent = system.sent := by
  unfold endTokenLogin
  split
  · rfl
  · rename_i token waits
    have heard := sent_hear system (system.client.accountRequest? token) answer
    generalize system.hear (system.client.accountRequest? token) answer = result at heard ⊢
    simp only
    split
    · rw [sent_commit]
      exact heard
    · exact heard

theorem sent_endValidation (number : Nat) (answer : Answer) :
    (system.endValidation number answer).sent = system.sent := by
  unfold endValidation
  split
  · rfl
  · rename_i bearer waits
    have heard := sent_hear system (system.client.checkRequest? bearer) answer
    generalize system.hear (system.client.checkRequest? bearer) answer = result at heard ⊢
    exact heard

theorem sent_release (number : Nat) : (system.release number).sent = system.sent := by
  unfold release
  split <;> rfl

theorem sent_handle (number : Nat) (action : HandleAction) :
    (system.handle number action).sent = system.sent := by
  unfold handle
  split
  · rfl
  · split
    · rfl
    · exact system.sent_release number
    · rfl
    · exact system.sent_release number
    · rfl

theorem sent_startPrompt (number : Nat) (opened : OpenPrompt) (ticket : Ticket) :
    (system.startPrompt number opened ticket).sent = system.sent := by
  unfold startPrompt
  split <;> rfl

theorem sent_receiveTicket (number : Nat) (opened : OpenPrompt) (starts : Bool)
    (answer : Answer) : (system.receiveTicket number opened starts answer).sent = system.sent := by
  have heard := sent_hear system system.client.ticketRequest? answer
  unfold receiveTicket
  generalize system.hear system.client.ticketRequest? answer = result at heard ⊢
  simp only
  split
  · exact heard
  · split
    · rw [sent_startPrompt]
      exact heard
    · exact heard

theorem sent_closePrompt (number : Nat) (opened : OpenPrompt) :
    (system.closePrompt number opened).sent = system.sent := by
  unfold closePrompt
  split
  · rfl
  · exact system.sent_release _

theorem spoke_getTicket {number : Nat} {opened : OpenPrompt} (idle : opened.call = .idle)
    (starts : Bool) :
    system.Spoke (if opened.call = .idle ∧ opened.prompt.ticket = none then some .ticket else none)
      (system.getTicket number opened starts) := by
  unfold getTicket
  cases has : opened.prompt.ticket with
  | none =>
      rw [if_pos ⟨idle, rfl⟩]
      exact spoke_sendFor rfl system.client.requestFor?_ticket
  | some ticket =>
      rw [if_neg (by simp)]
      refine spoke_of_sent_eq ?_
      cases starts with
      | true => exact system.sent_startPrompt number opened ticket
      | false => rfl

theorem spoke_actPrompt (number : Nat) (opened : OpenPrompt) (action : PromptAction) :
    system.Spoke (opened.purpose? action) (system.actPrompt number opened action) := by
  have silent (busy : opened.call ≠ .idle) : opened.purpose? action = none := by
    cases action <;> simp [OpenPrompt.purpose?, busy]
  unfold actPrompt
  cases call : opened.call with
  | idle =>
      cases action with
      | ticket => exact system.spoke_getTicket call false
      | start => exact system.spoke_getTicket call true
      | wait =>
          refine spoke_of_sent_eq ?_
          simp only
          split <;> rfl
      | close => exact spoke_of_sent_eq (system.sent_closePrompt number opened)
      | drop => exact spoke_of_sent_eq (system.sent_closePrompt number opened)
      | receive answer => exact spoke_of_sent_eq rfl
      | leave => exact spoke_of_sent_eq rfl
  | fetching starts =>
      rw [silent (by simp [call])]
      refine spoke_of_sent_eq ?_
      cases action with
      | receive answer => exact system.sent_receiveTicket number opened starts answer
      | _ => rfl
  | waiting task =>
      rw [silent (by simp [call])]
      refine spoke_of_sent_eq ?_
      cases action with
      | leave => exact system.sent_release task
      | _ => rfl

theorem spoke_prompt (number : Nat) (action : PromptAction) :
    system.Spoke (system.purpose? (.prompt number action)) (system.prompt number action) := by
  rw [purpose?_prompt, prompt]
  cases system.prompt? number with
  | none => exact spoke_of_sent_eq rfl
  | some opened => exact system.spoke_actPrompt number opened action

theorem request?_receive {poller : Poller} {client : Client} {request : Option Request}
    (waits : poller.request? client = some request) (answer : Answer) :
    ((poller.receive (heard request answer)).request? client).join =
      (poller.purpose? client (.receive answer)).bind client.requestFor? := by
  unfold Poller.request? at waits
  unfold Poller.receive Poller.purpose?
  cases phase : poller.phase with
  | asking =>
      obtain rfl : client.pollRequest? poller.ticket = request := by simpa [phase] using waits
      simp only [if_true]
      cases (heard (client.pollRequest? poller.ticket) answer).poll with
      | pending => rfl
      | redeemed redemption => rfl
      | failed error => rfl
  | checking redemption =>
      simp only [reduceCtorEq, if_false]
      cases (heard request answer).reputation <;> rfl
  | _ => simp [phase] at waits

theorem spoke_receive (number : Nat) (task : PollTask) (answer : Answer) :
    system.Spoke (task.poller.purpose? system.client (.receive answer))
      (system.receive number task answer) := by
  unfold receive
  cases waits : task.poller.request? system.client with
  | none =>
      have silent : task.poller.purpose? system.client (.receive answer) = none := by
        have busy : task.poller.phase ≠ .asking := by
          intro asking
          simp [Poller.request?, asking] at waits
        simp [Poller.purpose?, busy]
      rw [silent]
      exact spoke_of_sent_eq rfl
  | some request =>
      simp only
      refine spoke_send (sent_hear system request answer) ?_
      have same : (system.hear request answer).1.client = system.client := by
        rw [client, (quiet_hear system request answer).controller, client]
      rw [requestOf, same, hear_snd]
      exact request?_receive waits answer

theorem spoke_poll (number : Nat) (action : PollAction) :
    system.Spoke (system.purpose? (.poll number action)) (system.poll number action) := by
  rw [purpose?_poll, poll]
  cases system.poller? number with
  | none => exact spoke_of_sent_eq rfl
  | some task =>
      simp only [Option.bind_some]
      cases action with
      | ask =>
          by_cases resting : task.poller.phase = .resting
          · simp only [if_pos resting, Poller.purpose?]
            refine spoke_send (sent_of_journal_eq rfl) ?_
            simp only [requestOf, Poller.request?, Poller.ask, resting, Option.join_some,
              Option.bind_some, Client.requestFor?_poll]
          · simp only [if_neg resting, Poller.purpose?]
            exact spoke_of_sent_eq rfl
      | receive answer => exact system.spoke_receive number task answer
      | commit =>
          refine spoke_of_sent_eq ?_
          simp only [commitPoll]
          split
          · exact sent_commit _ _ _
          · rfl
      | _ => exact spoke_of_sent_eq rfl

theorem spoke_beginTokenLogin (token : String) :
    system.Spoke (some (.account token)) (system.beginTokenLogin token) := by
  unfold beginTokenLogin
  exact spoke_sendFor rfl (system.client.requestFor?_account token)

theorem spoke_beginLinkLogin (input : String) :
    system.Spoke ((system.controller.tokenToUse? input).map .account)
      (system.beginLinkLogin input) := by
  cases used : system.controller.tokenToUse? input with
  | none =>
      rw [beginLinkLogin_of_unused used]
      exact spoke_of_sent_eq rfl
  | some token =>
      rw [beginLinkLogin_of_used used]
      exact system.spoke_beginTokenLogin token

theorem spoke_beginValidation :
    system.Spoke (system.controller.session.bearer?.map .check) system.beginValidation := by
  unfold beginValidation
  cases system.controller.session.bearer? with
  | none => exact spoke_of_sent_eq rfl
  | some bearer =>
      exact spoke_sendFor rfl (system.client.requestFor?_check bearer)

/-- One event asks for what it is for and for nothing else. -/
theorem spoke_step (event : Event) :
    system.Spoke (system.purpose? event) (system.step event) := by
  cases event with
  | login session => exact spoke_of_sent_eq (system.sent_login session)
  | loginIfAnonymous cancelled session =>
      exact spoke_of_sent_eq (system.sent_loginIfAnonymous cancelled session)
  | beginTokenLogin token => exact system.spoke_beginTokenLogin token
  | beginLinkLogin input => exact system.spoke_beginLinkLogin input
  | endTokenLogin number answer => exact spoke_of_sent_eq (system.sent_endTokenLogin number answer)
  | beginValidation => exact system.spoke_beginValidation
  | endValidation number answer => exact spoke_of_sent_eq (system.sent_endValidation number answer)
  | poll number action => exact system.spoke_poll number action
  | handle number action => exact spoke_of_sent_eq (system.sent_handle number action)
  | prompt number action => exact system.spoke_prompt number action
  | refuse refusal => exact spoke_of_sent_eq rfl
  | logout => exact spoke_of_sent_eq rfl
  | reload later => exact spoke_of_sent_eq rfl
  | restart later => exact spoke_of_sent_eq rfl
  | startPolling ticket interval => exact spoke_of_sent_eq rfl
  | openPrompt interval => exact spoke_of_sent_eq rfl

end Spoke

/-- When an event asks for something.  A prompt asks for a ticket when it is called for one and
has none; a poller asks about its ticket after its pause, and about the bearer of a redemption
that it has just heard; a validation asks about the bearer that is held; and a login asks for
the account behind the token that it was given, with a link only if nobody is signed in. -/
inductive Sends (system : System) : Event → Purpose → Prop where
  | ticket {number : Nat} {opened : OpenPrompt} {action : PromptAction}
      (there : system.prompt? number = some opened) (idle : opened.call = .idle)
      (without : opened.prompt.ticket = none) (called : action = .ticket ∨ action = .start) :
      Sends system (.prompt number action) .ticket
  | poll {number : Nat} {task : PollTask} (there : system.poller? number = some task)
      (rests : task.poller.phase = .resting) :
      Sends system (.poll number .ask) (.poll task.poller.ticket)
  | redeemed {number : Nat} {task : PollTask} {answer : Answer} {redemption : Redemption}
      (there : system.poller? number = some task) (asks : task.poller.phase = .asking)
      (asked : (system.client.pollRequest? task.poller.ticket).isSome = true)
      (carries : answer.Carries Redemption.decode redemption) :
      Sends system (.poll number (.receive answer)) (.check redemption.bearer)
  | validation {session : SignedIn} (held : system.controller.session = .authenticated session) :
      Sends system .beginValidation (.check session.bearer)
  | tokenLogin (token : String) : Sends system (.beginTokenLogin token) (.account token)
  | linkLogin {input token : String} (found : TokenLink.token? input = some token)
      (anonymous : system.controller.session = .anonymous) :
      Sends system (.beginLinkLogin input) (.account token)

section Sends

variable {system : System} {purpose : Purpose}

theorem sends_poll_iff {number : Nat} {task : PollTask} {action : PollAction}
    (there : system.poller? number = some task) :
    task.poller.purpose? system.client action = some purpose ↔
      system.Sends (.poll number action) purpose := by
  constructor
  · intro asked
    unfold Poller.purpose? at asked
    split at asked
    · split at asked
      · rename_i rests
        obtain rfl := Option.some.inj asked
        exact .poll there rests
      · contradiction
    · rename_i answer
      split at asked
      · rename_i asks
        cases request : system.client.pollRequest? task.poller.ticket with
        | none =>
            rw [request] at asked
            contradiction
        | some built =>
            simp only [request, heard] at asked
            split at asked
            · rename_i redemption redeemed
              obtain rfl := Option.some.inj asked
              exact .redeemed there asks (by rw [request]; rfl)
                (Answer.poll_eq_redeemed_iff.mp redeemed)
            · contradiction
      · contradiction
    · contradiction
  · intro sends
    cases sends with
    | poll found rests =>
        obtain rfl := Option.some.inj (there.symm.trans found)
        exact if_pos rests
    | redeemed found asks asked carries =>
        obtain rfl := Option.some.inj (there.symm.trans found)
        obtain ⟨request, built⟩ := Option.isSome_iff_exists.mp asked
        have redeemed := Answer.poll_eq_redeemed_iff.mpr carries
        simp only [Poller.purpose?, if_pos asks, built, heard, redeemed]

theorem sends_prompt_iff {number : Nat} {opened : OpenPrompt} {action : PromptAction}
    (there : system.prompt? number = some opened) :
    opened.purpose? action = some purpose ↔ system.Sends (.prompt number action) purpose := by
  constructor
  · intro asked
    unfold OpenPrompt.purpose? at asked
    split at asked
    · split at asked
      · rename_i free
        obtain rfl := Option.some.inj asked
        exact .ticket there free.1 free.2 (.inl rfl)
      · contradiction
    · split at asked
      · rename_i free
        obtain rfl := Option.some.inj asked
        exact .ticket there free.1 free.2 (.inr rfl)
      · contradiction
    · contradiction
  · intro sends
    cases sends with
    | ticket found idle without called =>
        obtain rfl := Option.some.inj (there.symm.trans found)
        rcases called with rfl | rfl
        · exact if_pos ⟨idle, without⟩
        · exact if_pos ⟨idle, without⟩

theorem purpose?_eq_some_iff {event : Event} :
    system.purpose? event = some purpose ↔ system.Sends event purpose := by
  constructor
  · intro asked
    cases event with
    | beginTokenLogin token =>
        obtain rfl := Option.some.inj asked
        exact .tokenLogin token
    | beginLinkLogin input =>
        rw [purpose?_beginLinkLogin] at asked
        obtain ⟨token, used, rfl⟩ := Option.map_eq_some_iff.mp asked
        obtain ⟨found, anonymous⟩ := tokenToUse?_eq_some_iff.mp used
        exact .linkLogin found anonymous
    | beginValidation =>
        rw [purpose?_beginValidation] at asked
        cases held : system.controller.session with
        | anonymous =>
            rw [held] at asked
            contradiction
        | authenticated session =>
            rw [held] at asked
            obtain rfl := Option.some.inj asked
            exact .validation held
    | poll number action =>
        rw [purpose?_poll] at asked
        obtain ⟨task, there, asked⟩ := Option.bind_eq_some_iff.mp asked
        exact (sends_poll_iff there).mp asked
    | prompt number action =>
        rw [purpose?_prompt] at asked
        obtain ⟨opened, there, asked⟩ := Option.bind_eq_some_iff.mp asked
        exact (sends_prompt_iff there).mp asked
    | _ => contradiction
  · intro sends
    cases sends with
    | ticket there idle without called =>
        rw [purpose?_prompt, there]
        exact (sends_prompt_iff there).mpr (.ticket there idle without called)
    | poll there rests =>
        rw [purpose?_poll, there]
        exact (sends_poll_iff there).mpr (.poll there rests)
    | redeemed there asks asked carries =>
        rw [purpose?_poll, there]
        exact (sends_poll_iff there).mpr (.redeemed there asks asked carries)
    | validation held =>
        rw [purpose?_beginValidation, held]
        rfl
    | tokenLogin token => rfl
    | linkLogin found anonymous =>
        rw [purpose?_beginLinkLogin, tokenToUse?_eq_some_iff.mpr ⟨found, anonymous⟩]
        rfl

theorem sent_step_of_silent {event : Event} (silent : ∀ purpose, ¬ system.Sends event purpose) :
    (system.step event).sent = system.sent := by
  have nothing : system.purpose? event = none := by
    cases asked : system.purpose? event with
    | none => rfl
    | some purpose => exact absurd (purpose?_eq_some_iff.mp asked) (silent purpose)
  have spoke := system.spoke_step event
  rw [nothing] at spoke
  rw [spoke]
  exact List.append_nil _

end Sends

def purposes (system : System) (events : List Event) : List Purpose :=
  system.gather (fun now event => (now.purpose? event).toList) events

theorem sent_run (system : System) (events : List Event) :
    (system.run events).sent =
      system.sent ++ (system.purposes events).filterMap system.client.requestFor? := by
  induction events generalizing system with
  | nil => simp [purposes, gather]
  | cons event events ih =>
      have same : (system.step event).client = system.client := (change_step system event).client
      have one : ((system.purpose? event).bind system.client.requestFor?).toList =
          (system.purpose? event).toList.filterMap system.client.requestFor? := by
        cases system.purpose? event with
        | none => rfl
        | some purpose => cases asked : system.client.requestFor? purpose <;> simp [asked]
      have first : system.purposes (event :: events) =
          (system.purpose? event).toList ++ (system.step event).purposes events := rfl
      rw [run_cons, ih, same, system.spoke_step event, one, first, List.filterMap_append,
        List.append_assoc]

theorem mem_purposes_iff {system : System} {events : List Event} {purpose : Purpose} :
    purpose ∈ system.purposes events ↔ ∃ before event after,
      events = before ++ event :: after ∧ (system.run before).Sends event purpose := by
  simp only [purposes, mem_gather_iff, Option.mem_toList, purpose?_eq_some_iff]

/-- Pollers and prompts ask for the same, whoever is signed in. -/
theorem sent_step_of_isSignIn (system : System) {controller : Controller}
    (same : controller.client = system.client) {event : Event} (signIn : event.IsSignIn) :
    ({ system with controller }.step event).sent = (system.step event).sent := by
  have clients : client { system with controller } = system.client := same
  have purposes : purpose? { system with controller } event = system.purpose? event := by
    cases signIn with
    | poll number action =>
        rw [purpose?_poll, purpose?_poll, clients]
        rfl
    | prompt number action => rfl
  rw [spoke_step { system with controller } event, system.spoke_step event, purposes, clients]
  rfl

/-- With a base that names no user, everything that has been sent in any run was asked for by an
event that sends it, and is a plain question that proves what this event has to prove.  So
bearers go to two addresses only, one at a time; events that ask for nothing send nothing; and
what pollers and prompts send does not depend on who is signed in. -/
theorem bearers_go_to_two_addresses (client : Client) (store : Backing) (later : Refusal)
    (userless : client.IsUserless) (events : List Event) :
    let system := start client store later
    let now := system.run events
    now.sent = (system.purposes events).filterMap client.requestFor? ∧
      (∀ purpose, purpose ∈ system.purposes events ↔ ∃ before event after,
        events = before ++ event :: after ∧ (system.run before).Sends event purpose) ∧
      (∀ purpose request, client.requestFor? purpose = some request →
        client.AsksFor purpose request) ∧
      (∀ request ∈ now.sent, ∀ credential ∈ request.credentials,
        request.credentials = [credential] ∧ ∃ bearer, credential = .bearer bearer ∧
          (Url.parse? (client.url "/auth/check") = some request.url ∨
            Url.parse? (client.url "/profile") = some request.url)) ∧
      (∀ event, (∀ purpose, ¬ now.Sends event purpose) → (now.step event).sent = now.sent) ∧
      ∀ event controller, event.IsSignIn → controller.client = client →
        ({ now with controller }.step event).sent = (now.step event).sent := by
  intro system now
  have clientFirst : system.client = client := Controller.ofRestored_client client _ _
  have clients : now.client = client := (client_run system events).trans clientFirst
  have trace : now.sent = (system.purposes events).filterMap client.requestFor? := by
    rw [system.sent_run events, clientFirst]
    rfl
  refine ⟨trace, fun purpose => mem_purposes_iff, fun purpose request =>
    Client.asksFor_of_requestFor? userless, ?_, ?_, ?_⟩
  · intro request member credential carried
    rw [trace] at member
    obtain ⟨purpose, _, built⟩ := List.mem_filterMap.mp member
    exact (Client.asksFor_of_requestFor? userless built).of_carried carried
  · exact fun event silent => sent_step_of_silent silent
  · intro event controller signIn same
    exact now.sent_step_of_isSignIn (same.trans clients.symm) signIn

/-- A poller of a prompt proves nothing until its ticket is redeemed, and then only the bearer
that came with it, also when someone else is signed in by then. -/
theorem bearer_of_redeemed_poller :
    let client := Client.ofBase "http://localhost"
    let events := [.openPrompt 0, .prompt 0 .start, .prompt 0 (.receive (.ticketOf "t")),
      .poll 0 .begin, .poll 0 .ask, .login (Controller.sessionOf "other"),
      .poll 0 (.receive (.redemptionOf "token")), .beginValidation]
    let system := start client (.memory .empty) {}
    client.IsUserless ∧
      (system.run events).sent.map (fun request => (request.url.path, request.credentials)) =
        [("/auth", []), ("/auth/t", []), ("/auth/check", [.bearer "token"]),
          ("/auth/check", [.bearer "other"])] ∧
      (system.run events).sent = (system.purposes events).filterMap client.requestFor? := by
  intro client events system
  have userless : client.IsUserless := by
    have root : (Url.parse? (client.url "")).all fun root =>
        root.username = "" && root.password.isNone := by decide +kernel
    intro found parsed
    rw [parsed] at root
    simp only [Option.all_some, Bool.and_eq_true, decide_eq_true_eq, Option.isNone_iff_eq_none]
      at root
    exact ⟨root.1, root.2⟩
  obtain ⟨trace, _⟩ := bearers_go_to_two_addresses client (.memory .empty) {} userless events
  exact ⟨userless, by decide +kernel, trace⟩

end System

end SignIn
