import SignIn.Proofs.System.Polling
import SignIn.Proofs.MockServer.Requests

/-!
# Two ways to sign in

A ticket that has been redeemed with a token leads to the same session as a login with this
token.  What a server tells on the two ways has different forms, and a breakdown of the
reputation that cannot be read in one of them cannot be read in the other.
-/

namespace SignIn

namespace System

section Conversation

variable {system : System} {number : Nat} {poller : Poller} {controller : Controller}
  {requests : List Request}

/-- The request that the poller of a number waits for. -/
def awaited (system : System) (number : Nat) : Option Request :=
  (system.poller? number).bind fun task => system.requestOf task.poller

/-- A poller and a mock server by turns: what the poller waits for is answered, and the poller
does something about the answer.  Each round has a name at hand for a ticket that might be issued
in it. -/
def conversation (number : Nat) : MockServer → System → List String → System
  | _, system, [] => system
  | server, system, freshId :: freshIds =>
    let (server, answer) := server.answer freshId (system.awaited number)
    conversation number server (system.run ((Poller.round answer).map (.poll number))) freshIds

theorem conversation_cons {server after : MockServer} {answer : Answer} {freshId : String}
    (answered : server.answer freshId (system.awaited number) = (after, answer))
    (freshIds : List String) :
    conversation number server system (freshId :: freshIds) =
      conversation number after (system.run ((Poller.round answer).map (.poll number)))
        freshIds := by
  rw [conversation, answered]

theorem Stands.awaited (stands : system.Stands number poller controller requests) :
    system.awaited number = (poller.request? controller.client).join := by
  obtain ⟨holder, there⟩ := stands.there
  simp [System.awaited, there, requestOf, client, stands.controller]

theorem Stands.conversation_of_ended (stands : system.Stands number poller controller requests)
    {result : PollResult} (phase : poller.phase = .ended result) (server : MockServer)
    (freshIds : List String) :
    (conversation number server system freshIds).Stands number poller controller requests := by
  induction freshIds generalizing server system with
  | nil => exact stands
  | cons freshId freshIds ih => exact ih (stands.round_of_ended phase _) _

section Answered

variable {server after : MockServer} {freshId : String} {request : Request} {answer : Answer}
  (stands : system.Stands number poller controller requests)
  (uncancelled : poller.cancelled = false) (unwatched : controller.watched = false)
  (waits : poller.request? controller.client = some (some request))
  (answered : server.answer freshId (some request) = (after, answer))

include stands uncancelled unwatched waits answered

/-- With an answer that does not send it back to its pause a poller goes on, or ends. -/
theorem Stands.conversation_of_busy (busy : (poller.receive answer).phase ≠ .resting)
    (freshIds : List String) :
    ∃ next later, next.Stands number ((poller.receive answer).commit controller).2
        ((poller.receive answer).commit controller).1 later ∧
      conversation number server system (freshId :: freshIds) =
        conversation number after next freshIds := by
  have awaited := stands.awaited
  rw [waits, Option.join_some] at awaited
  rw [← awaited] at answered
  exact ⟨_, _, stands.round_of_busy uncancelled unwatched waits busy,
    conversation_cons answered freshIds⟩

theorem Stands.conversation_of_ending {left : Controller} {last : Poller} {result : PollResult}
    (ends : (poller.receive answer).commit controller = (left, last))
    (phase : last.phase = .ended result) (freshIds : List String) :
    let polled := conversation number server system (freshId :: freshIds)
    polled.controller = left ∧ polled.Ended number result := by
  intro polled
  have busy : (poller.receive answer).phase ≠ .resting := by
    intro rests
    rw [Poller.commit, rests] at ends
    obtain ⟨_, rfl⟩ := Prod.mk.inj ends
    rw [rests] at phase
    cases phase
  obtain ⟨next, later, standsNext, same⟩ :=
    stands.conversation_of_busy uncancelled unwatched waits answered busy freshIds
  rw [ends] at standsNext
  have ended := standsNext.conversation_of_ended phase after freshIds
  rw [← same] at ended
  exact ⟨ended.controller, ended.ended phase⟩

end Answered

end Conversation

/-- The system after a login with a token that a mock server answers, and what is returned. -/
def logInWithToken (system : System) (server : MockServer) (freshId token : String) :
    System × Option Returned :=
  let answer := (server.answer freshId (system.client.accountRequest? token)).2
  let begun := system.step (.beginTokenLogin token)
  let ending : Event := .endTokenLogin system.tokenLogins.length answer
  (begun.step ending, begun.returned? ending)

/-- Such a login does what the end of a login with a token does about the reply. -/
theorem logInWithToken_of_answer {system : System} {server : MockServer}
    {freshId token body : String} {request : Request}
    (built : system.client.accountRequest? token = some request)
    (answered : server.answer freshId (some request) = (server, .ofText body)) :
    let ended := system.controller.finishTokenLogin token (Answer.ofText body).account
    (system.logInWithToken server freshId token).1.controller = ended.1 ∧
      (system.logInWithToken server freshId token).2 = some (.tokenLogin ended.2) := by
  have waits := pending?_beginTokenLogin system token
  have sameClient : (system.beginTokenLogin token).client = system.client := rfl
  have sameController : (system.beginTokenLogin token).controller = system.controller := rfl
  have left := controller_endTokenLogin _ waits (.ofText body)
  rw [sameClient, built, sameController] at left
  simp only [logInWithToken, built, answered]
  refine ⟨left, ?_⟩
  rw [step, returned?, waits, Option.map_some, sameClient, built, sameController]
  rfl

section Ways

variable {system waits : System} {server : MockServer} {ticket token : String}
  {account : MockAccount} {data : ReputationData} {number interval : Nat}
  {requests : List Request}

/-- A breakdown that can be read lets the login with a token succeed. -/
theorem logInWithToken_of_reads (atRoot : system.client.AtRoot)
    (printable : isPrintableToken token = true) (offers : server.Offers ticket token account)
    (works : ∀ entries, (system.controller.store.write entries).2 = .ok ())
    (reads : ReputationData.shape.reader.Reads account.reputationData.print data)
    (freshId : String) :
    (system.logInWithToken server freshId token).1.controller =
        system.controller.enter ⟨token, account.profile, ⟨account.reputation, data⟩⟩ ∧
      (system.logInWithToken server freshId token).2 = some (.tokenLogin (.ok ())) := by
  obtain ⟨request, built, answered⟩ := offers.answer_account atRoot printable freshId
  have told : (Answer.ofText account.accountValue.print).account =
      .ok ⟨account.profile, account.reputation, data⟩ := by
    rw [Answer.account_ofText, account.decode_accountValue reads]
    rfl
  have ended := logInWithToken_of_answer built answered
  rw [told, Controller.finishTokenLogin] at ended
  simp only at ended
  rw [Controller.login_of_saved (works _)] at ended
  exact ended

/-- A breakdown that cannot be read makes it fail. -/
theorem logInWithToken_of_refuses (atRoot : system.client.AtRoot)
    (printable : isPrintableToken token = true) (offers : server.Offers ticket token account)
    (refuses : ReputationData.shape.reader.Refuses account.reputationData.print)
    (freshId : String) :
    ∃ error, (system.logInWithToken server freshId token).1.controller = system.controller ∧
      (system.logInWithToken server freshId token).2 =
        some (.tokenLogin (.error (.tokenLogin (.undecodable error)))) := by
  obtain ⟨request, built, answered⟩ := offers.answer_account atRoot printable freshId
  obtain ⟨error, refused⟩ := account.decode_accountValue_of_refuses refuses
  have told : (Answer.ofText account.accountValue.print).account = .error (.undecodable error) := by
    rw [Answer.account_ofText, refused]
    rfl
  have ended := logInWithToken_of_answer built answered
  rw [told] at ended
  exact ⟨error, ended⟩

/-- A poller that waits for an answer about a ticket goes on to check its token. -/
theorem Stands.conversation_of_asking {controller : Controller} (atRoot : controller.client.AtRoot)
    (plain : Url.isPlainSegment ticket = true) (other : ticket ≠ "check")
    (offers : server.Offers ticket token account) (unwatched : controller.watched = false)
    (stands : waits.Stands number ⟨ticket, interval, false, .asking⟩ controller requests)
    (freshId : String) (freshIds : List String) :
    ∃ after checks later, after.Offers ticket token account ∧
      checks.Stands number
        ⟨ticket, interval, false, .checking ⟨token, account.profile⟩⟩ controller later ∧
      conversation number server waits (freshId :: freshIds) =
        conversation number after checks freshIds := by
  obtain ⟨request, after, built, answered, still⟩ := offers.answer_poll atRoot plain other freshId
  have redeemed := Answer.poll_ofText (MockAccount.decode_redeemed token account)
  have asking : Poller.request? ⟨ticket, interval, false, .asking⟩ controller.client =
      some (some request) := congrArg some built
  have checking : Poller.receive ⟨ticket, interval, false, .asking⟩ (.ofText
      (MockServer.statusReply (.redeemed token account.profileValue)).body) =
      ⟨ticket, interval, false, .checking ⟨token, account.profile⟩⟩ := by
    simp only [Poller.receive, redeemed]
  obtain ⟨checks, later, next, same⟩ := stands.conversation_of_busy rfl unwatched asking answered
    (by rw [checking]; simp) freshIds
  rw [checking] at next
  exact ⟨after, checks, later, still, next, same⟩

section Checking

variable {controller : Controller} (atRoot : controller.client.AtRoot)
  (printable : isPrintableToken token = true) (offers : server.Offers ticket token account)
  (unwatched : controller.watched = false)
  (stands : waits.Stands number
    ⟨ticket, interval, false, .checking ⟨token, account.profile⟩⟩ controller requests)

include atRoot printable offers unwatched stands

theorem Stands.conversation_of_reads (anonymous : controller.session = .anonymous)
    (works : ∀ entries, (controller.store.write entries).2 = .ok ())
    (reads : ReputationData.shape.reader.Reads account.reputationData.print data)
    (freshId : String) (freshIds : List String) :
    let polled := conversation number server waits (freshId :: freshIds)
    polled.controller = controller.enter ⟨token, account.profile, ⟨account.reputation, data⟩⟩ ∧
      polled.Ended number (.loggedIn account.profile) := by
  obtain ⟨request, built, answered⟩ := offers.answer_check atRoot printable freshId
  have asking : Poller.request? ⟨ticket, interval, false, .checking ⟨token, account.profile⟩⟩
      controller.client = some (some request) := congrArg some built
  have told : (Answer.ofText account.reportValue.print).reputation =
      .ok ⟨account.reputation, data⟩ := by
    rw [Answer.reputation_ofText, account.decode_reportValue reads]
    rfl
  have ready : Poller.receive ⟨ticket, interval, false, .checking ⟨token, account.profile⟩⟩
      (.ofText account.reportValue.print) = ⟨ticket, interval, false,
        .committing ⟨token, account.profile, ⟨account.reputation, data⟩⟩⟩ := by
    simp only [Poller.receive, told]
  rcases commit_of_free ticket interval anonymous with ⟨_, committed⟩ | ⟨error, unsaved, _⟩
  · rw [← ready] at committed
    exact stands.conversation_of_ending rfl unwatched asking answered committed rfl freshIds
  · rw [Backing.save, works] at unsaved
    cases unsaved

theorem Stands.conversation_of_refuses
    (refuses : ReputationData.shape.reader.Refuses account.reputationData.print)
    (freshId : String) (freshIds : List String) :
    let polled := conversation number server waits (freshId :: freshIds)
    ∃ error, polled.controller = controller ∧
      polled.Ended number (.failed (.polling (.undecodable error))) := by
  obtain ⟨request, built, answered⟩ := offers.answer_check atRoot printable freshId
  have asking : Poller.request? ⟨ticket, interval, false, .checking ⟨token, account.profile⟩⟩
      controller.client = some (some request) := congrArg some built
  obtain ⟨error, refused⟩ := account.decode_reportValue_of_refuses refuses
  have told : (Answer.ofText account.reportValue.print).reputation =
      .error (.undecodable error) := by
    rw [Answer.reputation_ofText, refused]
    rfl
  have failed : (Poller.receive ⟨ticket, interval, false, .checking ⟨token, account.profile⟩⟩
      (.ofText account.reportValue.print)).commit controller =
        (controller, ⟨ticket, interval, false,
          .ended (.failed (.polling (.undecodable error)))⟩) := by
    simp only [Poller.receive, told, Poller.finish, Poller.commit]
  exact ⟨error, stands.conversation_of_ending rfl unwatched asking answered failed rfl freshIds⟩

end Checking

end Ways

/-- How a login by polling and a login with a token come out alike: both leave the same
controller behind, and with it the same store.  Either both succeed, and the session is that of
the account with its breakdown, or both fail over a reply that cannot be read, and change
nothing. -/
inductive Agree (before : Controller) (token : String) (account : MockAccount) (number : Nat)
    (polled loggedIn : System) (returned : Option Returned) : Prop where
  | signedIn {data : ReputationData}
      (breakdown : ReputationData.decode (Utf8.encode account.reputationData.print) = .ok data)
      (same : polled.controller = loggedIn.controller)
      (session : loggedIn.controller.session =
        .authenticated ⟨token, account.profile, ⟨account.reputation, data⟩⟩)
      (holds : loggedIn.controller.store.entries.Holds
        ⟨token, account.profile, ⟨account.reputation, data⟩⟩)
      (ended : polled.Ended number (.loggedIn account.profile))
      (returned : returned = some (.tokenLogin (.ok ())))
  | unreadable {unread pollError loginError : Json.DecodeError}
      (breakdown : ReputationData.decode (Utf8.encode account.reputationData.print) =
        .error unread)
      (same : polled.controller = loggedIn.controller)
      (unchanged : loggedIn.controller = before)
      (ended : polled.Ended number (.failed (.polling (.undecodable pollError))))
      (returned : returned =
        some (.tokenLogin (.error (.tokenLogin (.undecodable loginError)))))

/-- Whatever account is registered under a token, whatever the store holds and whatever the
breakdown of the account's reputation is: a poller for a ticket that has been redeemed with the
token, and a login with the token, both succeed with the same session, or both fail and leave
everything as it was.  The name of the ticket is made of letters, digits and hyphens, as the names
are that servers give. -/
theorem polling_agrees_with_token_login (system : System) (server : MockServer)
    (ticket token : String) (account : MockAccount) (atRoot : system.client.AtRoot)
    (plain : Url.isPlainSegment ticket = true) (other : ticket ≠ "check")
    (printable : isPrintableToken token = true) (offers : server.Offers ticket token account)
    (anonymous : system.controller.session = .anonymous)
    (unwatched : system.controller.watched = false)
    (works : ∀ entries, (system.controller.store.write entries).2 = .ok ())
    (interval : Nat) (loginId firstId secondId : String) (freshIds : List String) :
    let number := system.pollers.length
    let asked := (system.step (.startPolling ticket interval)).run (polling number [])
    let login := system.logInWithToken server loginId token
    Agree system.controller token account number
      (conversation number server asked (firstId :: secondId :: freshIds)) login.1 login.2 := by
  intro number asked login
  obtain ⟨after, checks, requests, still, stands, same⟩ :=
    (stands_asking ticket interval anonymous).conversation_of_asking atRoot plain other offers
      unwatched firstId (secondId :: freshIds)
  rw [same]
  rcases ReputationData.decisive account.reputationData with ⟨data, reads⟩ | refuses
  · obtain ⟨left, returned⟩ := logInWithToken_of_reads atRoot printable offers works reads loginId
    obtain ⟨polledLeft, ended⟩ := stands.conversation_of_reads atRoot printable still unwatched
      anonymous works reads secondId freshIds
    have sound := Controller.sound_enter
      (works (system.controller.store.kept.withSession
        ⟨token, account.profile, ⟨account.reputation, data⟩⟩))
    rw [← left] at sound
    have session := congrArg Controller.session left
    exact .signedIn reads.decode (polledLeft.trans left.symm) session (sound.holds _ session) ended
      returned
  · obtain ⟨unread, breakdown⟩ := refuses.decode
    obtain ⟨loginError, left, returned⟩ := logInWithToken_of_refuses atRoot printable offers refuses
      loginId
    obtain ⟨pollError, polledLeft, ended⟩ := stands.conversation_of_refuses atRoot printable still
      unwatched refuses secondId freshIds
    exact .unreadable breakdown (polledLeft.trans left.symm) left ended returned

/-- With a breakdown that can be read both ways sign the user in, and with none at all
neither does. -/
theorem polling_and_token_login_with_and_without_breakdown :
    let system := start (.ofBase "http://127.0.0.1:8080") (.memory .empty) {}
    let accountWith (data : Json.Value) : MockAccount :=
      { MockAccount.sample 7 "alice" with reputationData := data }
    let serverWith (data : Json.Value) : MockServer :=
      ((({} : MockServer).register "token" (accountWith data)).issue "ticket-1").1.redeem
        "ticket-1" "token"
    let asked := (system.step (.startPolling "ticket-1" 1000)).run (polling 0 [])
    let login (data : Json.Value) := system.logInWithToken (serverWith data) "id" "token"
    let polled (data : Json.Value) := conversation 0 (serverWith data) asked ["id", "id"]
    let breakdown : Json.Value := .object [("totalReputation", .natural 12)]
    (system.client.AtRoot ∧
        ∀ data, (serverWith data).Offers "ticket-1" "token" (accountWith data)) ∧
      (∀ data, Agree system.controller "token" (accountWith data) 0 (polled data) (login data).1
        (login data).2) ∧
      (polled breakdown).controller.session.isAuthenticated = true ∧
      (polled .null).controller.session = .anonymous := by
  intro system accountWith serverWith asked login polled breakdown
  have atRoot : system.client.AtRoot := by
    refine ⟨⟨"http", "", none, .address 0x7F000001, some 8080, [""], none, none⟩, ?_, ?_⟩
    · decide +kernel
    · exact ⟨rfl, rfl, rfl, rfl, rfl⟩
  have offers (data : Json.Value) :
      (serverWith data).Offers "ticket-1" "token" (accountWith data) := by
    have known : ((({} : MockServer).register "token" (accountWith data)).issue
        "ticket-1").1.tickets.get? "ticket-1" = some {} := Dictionary.get?_insert_same _ _ _
    exact MockServer.offers_redeem known (Dictionary.get?_insert_same _ _ _) rfl
  have agree (data : Json.Value) : Agree system.controller "token" (accountWith data) 0
      (polled data) (login data).1 (login data).2 :=
    polling_agrees_with_token_login system (serverWith data) "ticket-1" "token"
      (accountWith data) atRoot (by decide) (by decide) (by decide) (offers data) rfl rfl
      (fun _ => rfl) 1000 "id" "id" "id" []
  refine ⟨⟨atRoot, offers⟩, agree, ?_, ?_⟩
  · have readable : (ReputationData.decode (Utf8.encode breakdown.print)).isOk = true := by
      decide +kernel
    cases agree breakdown with
    | signedIn _ same session _ _ _ => rw [same, session]; rfl
    | unreadable unread _ _ _ _ =>
        rw [show (accountWith breakdown).reputationData = breakdown from rfl] at unread
        rw [unread] at readable
        cases readable
  · have unreadable : (ReputationData.decode (Utf8.encode Json.Value.null.print)).isOk = false := by
      decide +kernel
    cases agree .null with
    | signedIn read _ _ _ _ _ =>
        rw [show (accountWith .null).reputationData = .null from rfl] at read
        rw [read] at unreadable
        cases unreadable
    | unreadable _ same unchanged _ _ =>
        rw [same, unchanged]
        rfl

end System

end SignIn
