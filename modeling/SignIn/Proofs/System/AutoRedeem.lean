import SignIn.Proofs.System.Agreement
import SignIn.Proofs.System.PromptPolling
import SignIn.Proofs.MockServer.AutoRedeem

/-!
# Signing in with a ticket that redeems itself

A prompt that polls for a ticket of a mock server on which tickets redeem themselves signs
its user in.  It asks about the ticket as often as the server wants to be asked, and at least
once, checks the token that comes with the last answer, and logs in.
-/

namespace SignIn

open MockServer (autoAccount autoSession autoStatus autoToken issuedTicket)

/-- A mock server and a system that talk, and what was asked and answered so far. -/
structure Dialogue where
  server : MockServer
  system : System
  exchanges : List (Request × Answer) := []

namespace Dialogue

/-- One turn: what the poller of a number waits for is answered, and the poller does something
about the answer.  A name is at hand for a ticket that might be issued. -/
def turn (number : Nat) (dialogue : Dialogue) (freshId : String) : Dialogue :=
  let awaited := dialogue.system.awaited number
  let answered := dialogue.server.answer freshId awaited
  { server := answered.1
    system := dialogue.system.run ((Poller.round answered.2).map (.poll number))
    exchanges := dialogue.exchanges ++ awaited.toList.map fun request => (request, answered.2) }

def turns (number : Nat) (dialogue : Dialogue) (freshIds : List String) : Dialogue :=
  freshIds.foldl (turn number) dialogue

theorem turns_cons (number : Nat) (dialogue : Dialogue) (freshId : String)
    (freshIds : List String) :
    dialogue.turns number (freshId :: freshIds) =
      (dialogue.turn number freshId).turns number freshIds :=
  rfl

theorem turns_append (number : Nat) (dialogue : Dialogue) (first second : List String) :
    dialogue.turns number (first ++ second) =
      (dialogue.turns number first).turns number second :=
  List.foldl_append

section Turns

variable {dialogue : Dialogue} {number : Nat} {poller : Poller} {controller : Controller}
  {requests : List Request} {freshId : String}

theorem turn_of_waiting (stands : dialogue.system.Stands number poller controller requests)
    {request : Request} (waits : poller.request? controller.client = some (some request))
    {after : MockServer} {answer : Answer}
    (answered : dialogue.server.answer freshId (some request) = (after, answer)) :
    dialogue.turn number freshId =
      { server := after
        system := dialogue.system.run ((Poller.round answer).map (.poll number))
        exchanges := dialogue.exchanges ++ [(request, answer)] } := by
  have awaited := stands.awaited
  rw [waits, Option.join_some] at awaited
  simp only [turn, awaited, answered]
  rfl

theorem turns_of_ended (stands : dialogue.system.Stands number poller controller requests)
    {result : PollResult} (phase : poller.phase = .ended result) (freshIds : List String) :
    let after := dialogue.turns number freshIds
    after.system.Stands number poller controller requests ∧ after.server = dialogue.server ∧
      after.exchanges = dialogue.exchanges := by
  induction freshIds generalizing dialogue with
  | nil => exact ⟨stands, rfl, rfl⟩
  | cons freshId freshIds ih =>
      have silent : dialogue.system.awaited number = none := by
        rw [stands.awaited]
        simp [Poller.request?, phase]
      have turned : dialogue.turn number freshId =
          { server := dialogue.server
            system := dialogue.system.run ((Poller.round .failed).map (.poll number))
            exchanges := dialogue.exchanges } := by
        simp [turn, silent, MockServer.answer]
      rw [turns_cons, turned]
      exact @ih { dialogue with system := _ } (stands.round_of_ended phase .failed)

end Turns

def pendingAnswer : Answer :=
  .received ⟨.noContent, { octets := [] }⟩

def autoAnswer (id : String) : Answer :=
  .ofText (MockServer.statusReply (autoStatus id)).body

/-- The poller of a number waits for an answer about a ticket of the mock server, on which the
ticket has not redeemed itself. -/
structure Asking (dialogue : Dialogue) (number : Nat) (id : String) (interval threshold polls : Nat)
    (controller : Controller) (requests : List Request) : Prop where
  stands : dialogue.system.Stands number ⟨id, interval, false, .asking⟩ controller requests
  unredeemed : dialogue.server.Unredeemed id threshold polls

section Polling

variable {dialogue : Dialogue} {number : Nat} {id : String} {interval threshold polls : Nat}
  {controller : Controller} {requests : List Request} {ask : Request}
  (asking : dialogue.Asking number id interval threshold polls controller requests)
  (atRoot : controller.client.AtRoot) (plain : Url.isPlainSegment id = true)
  (other : id ≠ "check") (unwatched : controller.watched = false)
  (built : controller.client.pollRequest? id = some ask)

include asking atRoot plain other unwatched built

/-- A question that comes too early is answered with nothing, and the poller asks again. -/
theorem Asking.turn_early (early : polls + 1 < threshold) (freshId : String) :
    (dialogue.turn number freshId).Asking number id interval threshold (polls + 1) controller
        (requests ++ [ask]) ∧
      (dialogue.turn number freshId).exchanges = dialogue.exchanges ++ [(ask, pendingAnswer)] := by
  obtain ⟨request, sameRequest, answers⟩ := MockServer.answer_ticket atRoot plain other
  obtain rfl := Option.some.inj (sameRequest.symm.trans built)
  obtain ⟨after, polled, still⟩ := asking.unredeemed.poll_early early
  have waits : Poller.request? ⟨id, interval, false, .asking⟩ controller.client =
      some (some request) := congrArg some built
  have answered : dialogue.server.answer freshId (some request) = (after, pendingAnswer) := by
    rw [answers, polled]
    rfl
  have nothing : pendingAnswer.poll = .pending := Answer.poll_of_isPending ⟨_, rfl, rfl⟩
  have asked := asking.stands.round_of_pending unwatched built nothing
  rw [turn_of_waiting asking.stands waits answered]
  exact ⟨⟨asked, still⟩, rfl⟩

/-- As long as the ticket is not due the poller asks the same again and again. -/
theorem Asking.turns_early (freshIds : List String) (early : polls + freshIds.length ≤ threshold - 1) :
    (dialogue.turns number freshIds).Asking number id interval threshold
        (polls + freshIds.length) controller
        (requests ++ List.replicate freshIds.length ask) ∧
      (dialogue.turns number freshIds).exchanges =
        dialogue.exchanges ++ List.replicate freshIds.length (ask, pendingAnswer) := by
  induction freshIds generalizing dialogue requests polls with
  | nil => simpa [turns] using asking
  | cons freshId freshIds ih =>
      rw [List.length_cons] at early ⊢
      obtain ⟨next, exchanges⟩ := asking.turn_early atRoot plain other unwatched built
        (by omega) freshId
      obtain ⟨later, allExchanges⟩ := ih next (by omega)
      rw [exchanges] at allExchanges
      rw [turns_cons, List.replicate_succ, List.replicate_succ, Nat.add_comm freshIds.length,
        ← Nat.add_assoc]
      simp only [List.append_assoc, List.singleton_append] at later allExchanges
      exact ⟨later, allExchanges⟩

end Polling

/-- The poller of a number waits for the answer to a check of the token that came with its
ticket, which is good on the mock server. -/
structure Checking (dialogue : Dialogue) (number : Nat) (id : String) (interval polls : Nat)
    (controller : Controller) (requests : List Request) : Prop where
  stands : dialogue.system.Stands number
    ⟨id, interval, false, .checking ⟨autoToken id, autoAccount.profile⟩⟩
    controller requests
  offers : dialogue.server.Offers id (autoToken id) autoAccount
  counted : dialogue.server.pollCount id = polls

theorem exists_split {α : Type} {items : List α} {count : Nat} (enough : count + 2 ≤ items.length) :
    ∃ early first second rest,
      items = early ++ first :: second :: rest ∧ early.length = count := by
  have longer : 2 ≤ (items.drop count).length := by
    rw [List.length_drop]
    omega
  match behind : items.drop count, longer with
  | first :: second :: rest, _ =>
      refine ⟨items.take count, first, second, rest, ?_, List.length_take_of_le (by omega)⟩
      rw [← behind, List.take_append_drop]

section Redeeming

variable {dialogue : Dialogue} {number : Nat} {id : String} {interval threshold polls : Nat}
  {controller : Controller} {requests : List Request}
  (plain : Url.isPlainSegment id = true) (unwatched : controller.watched = false)
  (atRoot : controller.client.AtRoot)

include plain unwatched atRoot

/-- The question with which the ticket is due is answered with its token, which is checked. -/
theorem Asking.turn_due {ask : Request}
    (asking : dialogue.Asking number id interval threshold polls controller requests)
    (other : id ≠ "check") (built : controller.client.pollRequest? id = some ask)
    (due : threshold ≤ polls + 1) (freshId : String) :
    (dialogue.turn number freshId).Checking number id interval (polls + 1) controller
        (requests ++ (controller.client.checkRequest? (autoToken id)).toList) ∧
      (dialogue.turn number freshId).exchanges =
        dialogue.exchanges ++ [(ask, autoAnswer id)] := by
  obtain ⟨request, sameRequest, answers⟩ := MockServer.answer_ticket atRoot plain other
  obtain rfl := Option.some.inj (sameRequest.symm.trans built)
  obtain ⟨after, polled, offers, counted⟩ := asking.unredeemed.poll_due due
  have waits : Poller.request? ⟨id, interval, false, .asking⟩ controller.client =
      some (some request) := congrArg some built
  have answered : dialogue.server.answer freshId (some request) = (after, autoAnswer id) := by
    rw [answers, polled]
    rfl
  have redeemed : (autoAnswer id).poll = .redeemed ⟨autoToken id, autoAccount.profile⟩ :=
    Answer.poll_ofText (MockAccount.decode_redeemed _ _)
  have checking := asking.stands.round_of_redeemed unwatched built redeemed
  rw [turn_of_waiting asking.stands waits answered]
  exact ⟨⟨checking, offers, counted⟩, rfl⟩

/-- The check of the token is answered with the reputation, and the poller logs in. -/
theorem Checking.turn
    (checking : dialogue.Checking number id interval polls controller requests) {check : Request}
    (built : controller.client.checkRequest? (autoToken id) = some check)
    (anonymous : controller.session = .anonymous)
    (saves : (controller.store.save (autoSession id)).2 = .ok ()) (freshId : String) :
    (dialogue.turn number freshId).system.Stands number
        ⟨id, interval, false, .ended (.loggedIn autoAccount.profile)⟩
        (controller.enter (autoSession id)) requests ∧
      (dialogue.turn number freshId).server = dialogue.server ∧
      (dialogue.turn number freshId).exchanges = dialogue.exchanges ++
        [(check, .ofText autoAccount.reportValue.print)] := by
  obtain ⟨request, sameRequest, answered⟩ := checking.offers.answer_check atRoot
    (MockServer.printable_autoToken plain) freshId
  obtain rfl := Option.some.inj (sameRequest.symm.trans built)
  have waits : Poller.request? ⟨id, interval, false, .checking ⟨autoToken id, autoAccount.profile⟩⟩
      controller.client = some (some request) := congrArg some built
  have ended := checking.stands.round_of_reported unwatched built MockServer.reputation_autoAccount
  rw [turn_of_waiting checking.stands waits answered]
  rcases System.commit_of_free id interval anonymous with ⟨_, committed⟩ | ⟨error, unsaved, _⟩
  · rw [committed] at ended
    exact ⟨ended, rfl, rfl⟩
  · cases saves.symm.trans unsaved

/-- From its first question to its end: the poller asks until the ticket is due, checks the
token and logs in. -/
theorem Asking.turns {ask : Request}
    (asking : dialogue.Asking number id interval threshold 0 controller requests)
    (other : id ≠ "check") (built : controller.client.pollRequest? id = some ask)
    (anonymous : controller.session = .anonymous)
    (saves : (controller.store.save (autoSession id)).2 = .ok ()) {freshIds : List String}
    (enough : max threshold 1 < freshIds.length) :
    let after := dialogue.turns number freshIds
    ∃ check, controller.client.checkRequest? (autoToken id) = some check ∧
      after.system.Stands number ⟨id, interval, false, .ended (.loggedIn autoAccount.profile)⟩
        (controller.enter (autoSession id))
        (requests ++ List.replicate (max threshold 1 - 1) ask ++ [check]) ∧
      after.server.Offers id (autoToken id) autoAccount ∧
      after.server.pollCount id = max threshold 1 ∧
      after.exchanges = dialogue.exchanges ++
        List.replicate (max threshold 1 - 1) (ask, pendingAnswer) ++
          [(ask, autoAnswer id), (check, .ofText autoAccount.reportValue.print)] := by
  intro after
  obtain ⟨early, due, last, rest, rfl, count⟩ : ∃ early due last rest,
      freshIds = early ++ due :: last :: rest ∧ early.length = max threshold 1 - 1 :=
    exists_split (by omega)
  obtain ⟨stillAsking, pendings⟩ := asking.turns_early atRoot plain other unwatched built early
    (by omega)
  rw [Nat.zero_add, count] at stillAsking
  rw [count] at pendings
  obtain ⟨checking, redeemed⟩ := stillAsking.turn_due plain unwatched atRoot other built
    (by omega) due
  obtain ⟨check, builtCheck, _⟩ := checking.offers.answer_check atRoot
    (MockServer.printable_autoToken plain) last
  obtain ⟨ended, server, reported⟩ := checking.turn plain unwatched atRoot builtCheck anonymous
    saves last
  obtain ⟨endedStill, serverStill, exchanges⟩ := turns_of_ended ended rfl rest
  have whole : after = Dialogue.turns number (((dialogue.turns number early).turn number due).turn
      number last) rest := by
    rw [← turns_cons, ← turns_cons, ← turns_append]
  rw [← whole, builtCheck, Option.toList_some] at endedStill
  rw [← whole, server] at serverStill
  rw [← whole, reported, redeemed, pendings, List.append_assoc _ [_] [_]] at exchanges
  refine ⟨check, builtCheck, endedStill, ?_, ?_, exchanges⟩
  · rw [serverStill]
    exact checking.offers
  · rw [serverStill, checking.counted]
    omega

end Redeeming

/-- What a check of whoever is signed in returns when the mock server answers it. -/
def validated (dialogue : Dialogue) (freshId : String) : Option Returned :=
  let system := dialogue.system
  let request := system.controller.session.bearer?.bind system.client.checkRequest?
  (system.step .beginValidation).returned? (.endValidation system.validations.length
    (dialogue.server.answer freshId request).2)

theorem validated_of_offers {dialogue : Dialogue} {id : String} (plain : Url.isPlainSegment id = true)
    (atRoot : dialogue.system.client.AtRoot)
    (offers : dialogue.server.Offers id (autoToken id) autoAccount)
    (session : dialogue.system.controller.session = .authenticated (autoSession id))
    (freshId : String) : dialogue.validated freshId = some (.validation .valid) := by
  have held : dialogue.system.controller.session.bearer? = some (autoToken id) := by
    rw [session]
    rfl
  obtain ⟨check, built, answered⟩ := offers.answer_check atRoot
    (MockServer.printable_autoToken plain) freshId
  have waits := dialogue.system.pending?_beginValidation held
  have client : dialogue.system.beginValidation.client = dialogue.system.client :=
    (System.change_step dialogue.system .beginValidation).client
  simp only [validated, held, Option.bind_some, built, answered, System.step, System.returned?,
    waits, client, Option.map_some, System.hear, MockServer.reputation_autoAccount,
    Controller.finishValidation]

end Dialogue

namespace System

section Prompts

variable {system : System} {number : Nat} {opened : OpenPrompt} {ticket : Ticket}
  {action : PromptAction}

/-- A prompt without a poller that is started while nobody is signed in starts one for its
ticket. -/
theorem stands_of_startReturns (there : system.prompt? number = some opened)
    (free : opened.prompt.poller = none) (anonymous : system.controller.session = .anonymous)
    (returns : system.StartReturns number ticket action) :
    let begun := system.step (.prompt number action)
    begun.Stands system.pollers.length ⟨ticket.id, opened.prompt.interval, false, .fresh⟩
      system.controller begun.sent := by
  intro begun
  obtain ⟨prompt, freeStill, sameInterval, decides⟩ : ∃ prompt : Prompt Nat, prompt.poller = none ∧
      prompt.interval = opened.prompt.interval ∧ Decides system number prompt ticket begun := by
    cases returns with
    | known thereToo idle has =>
        obtain rfl := Option.some.inj (there.symm.trans thereToo)
        exact ⟨_, free, rfl, (decides_of_known there idle has).2⟩
    | brought thereToo fetching heard =>
        obtain rfl := Option.some.inj (there.symm.trans thereToo)
        exact ⟨{ opened.prompt with ticket := some ticket }, free, rfl,
          (decides_of_brought there fetching heard).2⟩
  cases decides with
  | leaves held =>
      rcases held with held | held
      · contradiction
      · contradiction
  | starts _ _ _ pollers =>
      refine ⟨⟨.prompt, ?_⟩, (quiet_prompt system number action).controller, rfl⟩
      rw [poller?, pollers, List.getElem?_concat_length, sameInterval]
      rfl

/-- A prompt that waits for its ticket is told the one that a mock server issues for it. -/
theorem startReturns_of_issue (there : system.prompt? number = some opened)
    (fetching : opened.call = .fetching true) (atRoot : system.client.AtRoot)
    (server : MockServer) (freshId : String) :
    let answered := server.answer freshId system.client.ticketRequest?
    answered.1 = (server.issue freshId).1 ∧
      system.StartReturns number (issuedTicket freshId) (.receive answered.2) := by
  intro answered
  obtain ⟨request, built, answers⟩ := MockServer.answer_newTicket atRoot
  have issued : answered = ((server.issue freshId).1,
      Answer.ofText (server.issue freshId).2.body) := by
    rw [← answers, ← built]
  rw [issued]
  refine ⟨rfl, .brought there fetching ?_⟩
  rw [ticketHeard, built, heard, MockServer.ticket_issue]

end Prompts

/-- How a user is signed in with a ticket that redeems itself: it is asked about a number of
times, of which only the last one brings the token, and the token is checked once. -/
structure SignsIn (begun : System) (number : Nat) (id : String) (polls : Nat) (after : Dialogue) :
    Prop where
  asked : ∃ ask check,
    begun.client.Builds "GET" ("/auth/" ++ id) none "" (some ask) ∧
      begun.client.Builds "GET" "/auth/check" (some (autoToken id)) "" (some check) ∧
      after.exchanges = List.replicate (polls - 1) (ask, Dialogue.pendingAnswer) ++
        [(ask, Dialogue.autoAnswer id), (check, .ofText autoAccount.reportValue.print)] ∧
      after.system.sent = begun.sent ++ List.replicate polls ask ++ [check]
  counted : after.server.pollCount id = polls
  ended : after.system.Ended number (.loggedIn autoAccount.profile)
  session : after.system.controller.session = .authenticated (autoSession id)
  holds : after.system.controller.store.entries.Holds (autoSession id)
  valid : ∀ freshId, after.validated freshId = some (.validation .valid)

/-- Whatever has happened before on a mock server and to a system: a prompt that starts to poll for
a fresh ticket of a server on which tickets redeem themselves, while nobody is signed in, signs its
user in if the store takes the session.  It asks as often as the server wants to be asked, and at
least once.  All answers but the last one are empty, and the token that comes with the last one is
good at once.  The name of the ticket is made of letters, digits and hyphens, as the names are that
servers give. -/
theorem ticket_redeems_itself (client : Client) (store : Backing) (later : Refusal)
    (earlier : List Event) (history : List MockServer.Event) (threshold : Nat) {prompt : Nat}
    {opened : OpenPrompt} {ticket : Ticket} {action : PromptAction} (atRoot : client.AtRoot)
    (plain : Url.isPlainSegment ticket.id = true) (other : ticket.id ≠ "check")
    (decided : MockServer.threshold? history = some threshold)
    (fresh : (MockServer.ofEvents history).tickets.get? ticket.id = some {})
    (unregistered : (MockServer.ofEvents history).accounts.get? (autoToken ticket.id) = none)
    (honest : (MockServer.ofEvents history).checkStatus = none) {freshIds : List String}
    (enough : max threshold 1 < freshIds.length) :
    let system := (start client store later).run earlier
    let number := system.pollers.length
    let begun := system.step (.prompt prompt action)
    let dialogue : Dialogue :=
      { server := .ofEvents history, system := begun.run (polling number []) }
    system.prompt? prompt = some opened → opened.prompt.poller = none →
      system.StartReturns prompt ticket action → system.controller.session = .anonymous →
      (system.controller.store.save (autoSession ticket.id)).2 = .ok () →
      SignsIn begun number ticket.id (max threshold 1) (dialogue.turns number freshIds) := by
  intro system number begun dialogue there free returns anonymous saves
  have sound : system.controller.Sound :=
    sound_run (Controller.sound_ofRestored client store later) earlier
  have unwatched : system.controller.watched = false := by
    rw [sound.watched, anonymous]
    rfl
  have sameClient : system.client = client := by
    rw [client_run]
    exact Controller.ofRestored_client client _ _
  have atRootHere : system.controller.client.AtRoot := by
    rw [show system.controller.client = client from sameClient]
    exact atRoot
  have begunClient : begun.client = system.controller.client :=
    congrArg Controller.client (quiet_prompt system prompt action).controller
  obtain ⟨ask, built, _⟩ := MockServer.answer_ticket atRootHere plain other
  have stands := (stands_of_startReturns there free anonymous returns).asking anonymous
  rw [built, Option.toList_some] at stands
  have asking : dialogue.Asking number ticket.id opened.prompt.interval threshold 0
      system.controller (begun.sent ++ [ask]) :=
    ⟨stands, MockServer.unredeemed_ofEvents decided fresh unregistered honest⟩
  obtain ⟨check, builtCheck, ended, offers, counted, exchanges⟩ :=
    asking.turns plain unwatched atRootHere other built anonymous saves enough
  have session := congrArg Controller.session ended.controller
  refine ⟨⟨ask, check, ?_, ?_, exchanges, ?_⟩, counted, ended.ended rfl, session, ?_, fun freshId =>
    Dialogue.validated_of_offers plain ?_ offers session freshId⟩
  · rw [← built, ← begunClient]
    exact begun.client.builds_call? "GET" ("/auth/" ++ ticket.id) none ""
  · rw [← builtCheck, ← begunClient]
    exact begun.client.builds_call? "GET" "/auth/check" (some (autoToken ticket.id)) ""
  · have whole : max threshold 1 = (max threshold 1 - 1) + 1 := by omega
    rw [ended.sent, List.append_assoc _ [ask], List.singleton_append, ← List.replicate_succ,
      ← whole]
  · rw [ended.controller]
    exact (Controller.sound_enter saves).holds _ rfl
  · rw [System.client, ended.controller]
    exact atRootHere

/-- A prompt that asks for a ticket, and a server that has issued another one before. -/
theorem ticket_redeems_itself_with_second_question :
    let client := Client.ofBase "http://127.0.0.1:8080"
    let events : List Event := [.openPrompt 1000, .prompt 0 .start]
    let system := (start client (.memory .empty) {}).run events
    let earlier : List MockServer.Event :=
      [.redeemAfter 2, .request "first" "GET" "/auth" none, .request "" "GET" "/auth/first" none]
    let issued := (MockServer.ofEvents earlier).answer "second" system.client.ticketRequest?
    let begun := system.step (.prompt 0 (.receive issued.2))
    let dialogue : Dialogue := { server := issued.1, system := begun.run (polling 0 []) }
    client.AtRoot ∧ SignsIn begun 0 "second" 2 (dialogue.turns 0 ["", "", ""]) ∧
      (dialogue.turns 0 ["", "", ""]).system.controller.session.bearer? =
        some "fixture-token-second" := by
  intro client events system earlier issued begun dialogue
  have atRoot : client.AtRoot :=
    ⟨⟨"http", "", none, .address 0x7F000001, some 8080, [""], none, none⟩, by decide +kernel,
      rfl, rfl, rfl, rfl, rfl⟩
  have there : system.prompt? 0 = some { prompt := { interval := 1000 }, call := .fetching true } :=
    rfl
  obtain ⟨server, returns⟩ := startReturns_of_issue there rfl atRoot (.ofEvents earlier) "second"
  let history := earlier ++ [MockServer.Event.request "second" "GET" "/auth" none]
  have sameServer : MockServer.ofEvents history = issued.1 := server.symm
  have fresh : (MockServer.ofEvents history).tickets.get? "second" = some {} :=
    Dictionary.get?_insert_same _ _ _
  have unregistered : (MockServer.ofEvents history).accounts.get? (autoToken "second") = none :=
    Option.isNone_iff_eq_none.mp (by decide +kernel)
  have honest : (MockServer.ofEvents history).checkStatus = none := by decide +kernel
  have enough : max 2 1 < ["", "", ""].length := by decide
  have signsIn : SignsIn begun 0 "second" 2 (dialogue.turns 0 ["", "", ""]) := by
    have signed := ticket_redeems_itself client (.memory .empty) {} events history 2 atRoot
      (by decide) (by decide) rfl fresh unregistered honest enough there rfl returns rfl rfl
    rw [sameServer] at signed
    exact signed
  exact ⟨atRoot, signsIn, by rw [signsIn.session]; rfl⟩

end System

end SignIn
