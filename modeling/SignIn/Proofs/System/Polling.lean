import SignIn.Proofs.System.Endings
import SignIn.Proofs.System.Soundness
import SignIn.Proofs.System.Validation

/-!
# A poller on its own

When nothing comes between, a poller asks until an answer says something about its ticket.
That answer decides: either the poller fails with it, or it asks once about the bearer that
came and logs in with what it is told.  Until then the controller is left alone.
-/

namespace SignIn

/-- What a poller does about one answer: it looks up, takes note of the answer, and goes on to
ask again or to log in if it can. -/
def Poller.round (answer : Answer) : List PollAction :=
  [.noticeCancel, .noticeLogin, .receive answer, .ask, .commit]

namespace System

def sent (system : System) : List Request :=
  system.journal.filterMap fun
    | .asked request => some request
    | _ => none

/-- What a poller of a number does with these answers when nothing comes between. -/
def polling (number : Nat) (answers : List Answer) : List Event :=
  ([PollAction.begin, .ask] ++ answers.flatMap Poller.round).map (.poll number)

/-- Where a poller of a number stands, with a controller and the requests sent so far. -/
structure Stands (system : System) (number : Nat) (poller : Poller) (controller : Controller)
    (sent : List Request) : Prop where
  there : ∃ holder, system.poller? number = some ⟨poller, holder⟩
  controller : system.controller = controller
  sent : system.sent = sent

section Actions

variable {system : System} {number : Nat} {poller : Poller} {controller : Controller}
  {requests : List Request}

theorem sent_send (system : System) (request : Option Request) :
    (system.send request).sent = system.sent ++ request.toList := by
  cases request <;> simp [sent, send]

theorem sent_hear (system : System) (request : Option Request) (answer : Answer) :
    (system.hear request answer).1.sent = system.sent := by
  cases request <;> simp [sent, hear]

theorem Stands.ended (stands : system.Stands number poller controller requests)
    {result : PollResult} (phase : poller.phase = .ended result) : system.Ended number result := by
  obtain ⟨holder, there⟩ := stands.there
  exact ⟨⟨poller, holder⟩, there, phase⟩

theorem Stands.move (stands : system.Stands number poller controller requests) (holder : Holder)
    (after : Poller) :
    (system.withPoller number ⟨after, holder⟩).Stands number after controller requests := by
  obtain ⟨earlier, there⟩ := stands.there
  exact ⟨⟨holder, poller?_withPoller (number_lt_of_poller? there) _⟩, stands.controller,
    stands.sent⟩

theorem Stands.begin (stands : system.Stands number poller controller requests) :
    (system.step (.poll number .begin)).Stands number
      (poller.begin controller.session.isAuthenticated) controller requests := by
  obtain ⟨holder, there⟩ := stands.there
  simp only [step, poll, there, stands.controller]
  exact stands.move _ _

theorem Stands.noticeCancel (stands : system.Stands number poller controller requests) :
    (system.step (.poll number .noticeCancel)).Stands number poller.noticeCancel controller
      requests := by
  obtain ⟨holder, there⟩ := stands.there
  simp only [step, poll, there]
  exact stands.move _ _

theorem Stands.noticeLogin (stands : system.Stands number poller controller requests) :
    (system.step (.poll number .noticeLogin)).Stands number
      (poller.noticeLogin controller.watched) controller requests := by
  obtain ⟨holder, there⟩ := stands.there
  simp only [step, poll, there, stands.controller]
  exact stands.move _ _

theorem Stands.ask (stands : system.Stands number poller controller requests)
    (resting : poller.phase = .resting) :
    (system.step (.poll number .ask)).Stands number poller.ask controller
      (requests ++ (controller.client.pollRequest? poller.ticket).toList) := by
  obtain ⟨holder, there⟩ := stands.there
  have asked := stands.move holder poller.ask
  have request : system.requestOf poller.ask = controller.client.pollRequest? poller.ticket := by
    simp [requestOf, Poller.request?, Poller.ask, resting, client, stands.controller]
  simp only [step, poll, there, if_pos resting, request]
  refine ⟨asked.there, asked.controller, ?_⟩
  rw [sent_send, asked.sent]

theorem Stands.ask_of_ne (stands : system.Stands number poller controller requests)
    (busy : poller.phase ≠ .resting) :
    (system.step (.poll number .ask)).Stands number poller controller requests := by
  obtain ⟨holder, there⟩ := stands.there
  simp only [step, poll, there, if_neg busy]
  exact stands

def heard (request : Option Request) (answer : Answer) : Answer :=
  match request with
  | none => .failed
  | some _ => answer

theorem hear_snd (system : System) (request : Option Request) (answer : Answer) :
    (system.hear request answer).2 = heard request answer := by
  cases request <;> rfl

theorem Stands.receive (stands : system.Stands number poller controller requests)
    {request : Option Request} (waits : poller.request? controller.client = some request)
    (answer : Answer) :
    (system.step (.poll number (.receive answer))).Stands number
      (poller.receive (heard request answer)) controller
      (requests ++ ((poller.receive (heard request answer)).request? controller.client).join.toList) :=
  by
  obtain ⟨holder, there⟩ := stands.there
  have same : system.client = controller.client := by rw [client, stands.controller]
  have quiet := quiet_hear system request answer
  have pollers := pollers_hear system request answer
  have requestsSame := sent_hear system request answer
  simp only [step, poll, there, System.receive, same, waits]
  rw [hear_snd]
  revert quiet pollers requestsSame
  generalize (system.hear request answer).1 = after
  intro quiet pollers requestsSame
  have standsAfter : after.Stands number poller controller requests := by
    refine ⟨⟨holder, ?_⟩, quiet.controller.trans stands.controller, requestsSame.trans stands.sent⟩
    rw [poller?, pollers]
    exact there
  have moved := standsAfter.move holder (poller.receive (heard request answer))
  have clientAfter : after.client = controller.client := by
    rw [client, standsAfter.controller]
  refine ⟨moved.there, moved.controller, ?_⟩
  rw [sent_send, moved.sent, requestOf, clientAfter]

theorem Stands.receive_of_idle (stands : system.Stands number poller controller requests)
    (idle : poller.request? controller.client = none) (answer : Answer) :
    (system.step (.poll number (.receive answer))).Stands number poller controller requests := by
  obtain ⟨holder, there⟩ := stands.there
  have same : system.client = controller.client := by rw [client, stands.controller]
  simp only [step, poll, there, System.receive, same, idle]
  exact stands

theorem sent_commit (system : System) (controller : Controller) (session : SignedIn) :
    (system.commit controller session).sent = system.sent := by
  simp [sent, System.commit]

theorem Stands.commit (stands : system.Stands number poller controller requests) :
    (system.step (.poll number .commit)).Stands number (poller.commit controller).2
      (poller.commit controller).1 requests := by
  obtain ⟨holder, there⟩ := stands.there
  have now := system.poller?_commitPoll there
  have left := system.controller_commitPoll number ⟨poller, holder⟩
  rw [stands.controller] at now left
  simp only [step, poll, there]
  refine ⟨⟨holder, now⟩, left, ?_⟩
  unfold commitPoll
  simp only
  split
  · rw [sent_commit]
    exact stands.sent
  · exact stands.sent

theorem Stands.lookUp (stands : system.Stands number poller controller requests)
    (uncancelled : poller.cancelled = false) (unwatched : controller.watched = false) :
    ((system.step (.poll number .noticeCancel)).step (.poll number .noticeLogin)).Stands number
      poller controller requests := by
  have still : poller.noticeCancel = poller := by simp [Poller.noticeCancel, uncancelled]
  have stillToo : poller.noticeLogin controller.watched = poller := by
    simp [Poller.noticeLogin, unwatched]
  have looked := stands.noticeCancel
  rw [still] at looked
  have watched := looked.noticeLogin
  rw [stillToo] at watched
  exact watched

theorem run_round (system : System) (number : Nat) (answer : Answer) :
    system.run ((Poller.round answer).map (.poll number)) =
      ((((system.step (.poll number .noticeCancel)).step (.poll number .noticeLogin)).step
        (.poll number (.receive answer))).step (.poll number .ask)).step (.poll number .commit) :=
  rfl

/-- After an answer that brings the poller back to its pause it asks again. -/
theorem Stands.round_of_resting (stands : system.Stands number poller controller requests)
    (uncancelled : poller.cancelled = false) (unwatched : controller.watched = false)
    {request : Option Request} (waits : poller.request? controller.client = some request)
    (answer : Answer) (rests : (poller.receive (heard request answer)).phase = .resting) :
    (system.run ((Poller.round answer).map (.poll number))).Stands number
      (poller.receive (heard request answer)).ask controller
      (requests ++ (controller.client.pollRequest?
        (poller.receive (heard request answer)).ticket).toList) := by
  have received := (stands.lookUp uncancelled unwatched).receive waits answer
  have silent : (poller.receive (heard request answer)).request? controller.client = none := by
    simp [Poller.request?, rests]
  rw [silent, Option.join_none, Option.toList_none, List.append_nil] at received
  have asked := received.ask rests
  have unready : (poller.receive (heard request answer)).ask.commit controller =
      (controller, (poller.receive (heard request answer)).ask) := by
    simp [Poller.ask, rests, Poller.commit]
  have ended := asked.commit
  rw [unready] at ended
  rw [run_round]
  exact ended

/-- After any other answer it logs in if it can. -/
theorem Stands.round_of_busy (stands : system.Stands number poller controller requests)
    (uncancelled : poller.cancelled = false) (unwatched : controller.watched = false)
    {request : Option Request} (waits : poller.request? controller.client = some request)
    {answer : Answer} (busy : (poller.receive (heard request answer)).phase ≠ .resting) :
    (system.run ((Poller.round answer).map (.poll number))).Stands number
      ((poller.receive (heard request answer)).commit controller).2
      ((poller.receive (heard request answer)).commit controller).1
      (requests ++
        ((poller.receive (heard request answer)).request? controller.client).join.toList) := by
  have received := (stands.lookUp uncancelled unwatched).receive waits answer
  rw [run_round]
  exact (received.ask_of_ne busy).commit

theorem Stands.round_of_ended (stands : system.Stands number poller controller requests)
    {result : PollResult} (phase : poller.phase = .ended result) (answer : Answer) :
    (system.run ((Poller.round answer).map (.poll number))).Stands number poller controller
      requests := by
  have still : poller.noticeCancel = poller := by
    simp [Poller.noticeCancel, Poller.isWaiting, phase]
  have stillToo : poller.noticeLogin controller.watched = poller := by
    simp [Poller.noticeLogin, Poller.isWaiting, phase]
  have silent : poller.request? controller.client = none := by simp [Poller.request?, phase]
  have done : poller.commit controller = (controller, poller) := by simp [Poller.commit, phase]
  have looked := stands.noticeCancel
  rw [still] at looked
  have watched := looked.noticeLogin
  rw [stillToo] at watched
  have ended := ((watched.receive_of_idle silent answer).ask_of_ne (by simp [phase])).commit
  rw [done] at ended
  rw [run_round]
  exact ended

theorem Stands.rounds_of_ended (stands : system.Stands number poller controller requests)
    {result : PollResult} (phase : poller.phase = .ended result) (answers : List Answer) :
    (system.run ((answers.flatMap Poller.round).map (.poll number))).Stands number poller
      controller requests := by
  induction answers generalizing system with
  | nil => exact stands
  | cons answer answers ih =>
      rw [List.flatMap_cons, List.map_append, run_append]
      exact ih (stands.round_of_ended phase answer)

section Answers

variable {ticket : String} {interval : Nat} {request : Request} {answer : Answer}

/-- A poller that is told nothing asks the same again. -/
theorem Stands.round_of_pending
    (stands : system.Stands number ⟨ticket, interval, false, .asking⟩ controller requests)
    (unwatched : controller.watched = false)
    (built : controller.client.pollRequest? ticket = some request)
    (pending : answer.poll = .pending) :
    (system.run ((Poller.round answer).map (.poll number))).Stands number
      ⟨ticket, interval, false, .asking⟩ controller (requests ++ [request]) := by
  have rests : Poller.receive ⟨ticket, interval, false, .asking⟩ (heard (some request) answer) =
      ⟨ticket, interval, false, .resting⟩ := by
    simp only [Poller.receive, heard, pending]
  have asked := stands.round_of_resting rfl unwatched (congrArg some built) answer (by rw [rests])
  rw [rests, built] at asked
  exact asked

/-- A poller whose ticket has been redeemed asks about the bearer that it is told. -/
theorem Stands.round_of_redeemed
    (stands : system.Stands number ⟨ticket, interval, false, .asking⟩ controller requests)
    (unwatched : controller.watched = false)
    (built : controller.client.pollRequest? ticket = some request) {redemption : Redemption}
    (redeemed : answer.poll = .redeemed redemption) :
    (system.run ((Poller.round answer).map (.poll number))).Stands number
      ⟨ticket, interval, false, .checking redemption⟩ controller
      (requests ++ (controller.client.checkRequest? redemption.bearer).toList) := by
  have checking : Poller.receive ⟨ticket, interval, false, .asking⟩
      (heard (some request) answer) = ⟨ticket, interval, false, .checking redemption⟩ := by
    simp only [Poller.receive, heard, redeemed]
  have next := stands.round_of_busy rfl unwatched (congrArg some built) (by rw [checking]; simp)
  rw [checking] at next
  exact next

theorem Stands.round_of_failed
    (stands : system.Stands number ⟨ticket, interval, false, .asking⟩ controller requests)
    (unwatched : controller.watched = false)
    (built : controller.client.pollRequest? ticket = some request) {error : FetchError}
    (failed : answer.poll = .failed error) :
    (system.run ((Poller.round answer).map (.poll number))).Stands number
      ⟨ticket, interval, false, .ended (.failed (.polling error))⟩ controller requests := by
  have refused : Poller.receive ⟨ticket, interval, false, .asking⟩
      (heard (some request) answer) =
      ⟨ticket, interval, false, .ended (.failed (.polling error))⟩ := by
    simp only [Poller.receive, heard, failed, Poller.finish]
  have ended := stands.round_of_busy rfl unwatched (congrArg some built) (by rw [refused]; simp)
  rw [refused] at ended
  simpa [Poller.request?, Poller.commit] using ended

theorem Stands.round_of_reported {redemption : Redemption}
    (stands : system.Stands number ⟨ticket, interval, false, .checking redemption⟩ controller
      requests)
    (unwatched : controller.watched = false)
    (built : controller.client.checkRequest? redemption.bearer = some request)
    {reputation : Reputation} (reported : answer.reputation = .ok reputation) :
    (system.run ((Poller.round answer).map (.poll number))).Stands number
      (Poller.commit ⟨ticket, interval, false,
        .committing ⟨redemption.bearer, redemption.profile, reputation⟩⟩ controller).2
      (Poller.commit ⟨ticket, interval, false,
        .committing ⟨redemption.bearer, redemption.profile, reputation⟩⟩ controller).1
      requests := by
  have ready : Poller.receive ⟨ticket, interval, false, .checking redemption⟩
      (heard (some request) answer) = ⟨ticket, interval, false,
        .committing ⟨redemption.bearer, redemption.profile, reputation⟩⟩ := by
    simp only [Poller.receive, heard, reported]
  have ended := stands.round_of_busy rfl unwatched (congrArg some built) (by rw [ready]; simp)
  rw [ready] at ended
  simpa [Poller.request?] using ended

theorem Stands.round_of_unreported {redemption : Redemption}
    (stands : system.Stands number ⟨ticket, interval, false, .checking redemption⟩ controller
      requests)
    (unwatched : controller.watched = false)
    (built : controller.client.checkRequest? redemption.bearer = some request)
    {error : FetchError} (unreported : answer.reputation = .error error) :
    (system.run ((Poller.round answer).map (.poll number))).Stands number
      ⟨ticket, interval, false, .ended (.failed (.polling error))⟩ controller requests := by
  have failed : Poller.receive ⟨ticket, interval, false, .checking redemption⟩
      (heard (some request) answer) =
      ⟨ticket, interval, false, .ended (.failed (.polling error))⟩ := by
    simp only [Poller.receive, heard, unreported, Poller.finish]
  have ended := stands.round_of_busy rfl unwatched (congrArg some built) (by rw [failed]; simp)
  rw [failed] at ended
  simpa [Poller.request?, Poller.commit] using ended

end Answers

/-- As long as the answers are pending the poller asks again and again. -/
theorem Stands.rounds_of_pending {ticket : String} {interval : Nat}
    (stands : system.Stands number ⟨ticket, interval, false, .asking⟩ controller requests)
    (unwatched : controller.watched = false) {request : Request}
    (built : controller.client.pollRequest? ticket = some request) {answers : List Answer}
    (pending : ∀ answer ∈ answers, answer.IsPending) :
    (system.run ((answers.flatMap Poller.round).map (.poll number))).Stands number
      ⟨ticket, interval, false, .asking⟩ controller
      (requests ++ List.replicate answers.length request) := by
  induction answers generalizing system requests with
  | nil => simpa using stands
  | cons answer answers ih =>
      have nothing := Answer.poll_of_isPending (pending answer (List.mem_cons_self ..))
      have asked := stands.round_of_pending unwatched built nothing
      have later := ih asked fun other member => pending other (List.mem_cons_of_mem answer member)
      rw [List.flatMap_cons, List.map_append, run_append, List.length_cons, List.replicate_succ]
      simpa using later

end Actions

/-- A bearer is asked about, once. -/
def Asks (waits : System) (bearer : String) (after : System) : Prop :=
  ∃ request, waits.client.Builds "GET" "/auth/check" (some bearer) "" (some request) ∧
    after.sent = waits.sent ++ [request]

/-- How polling ends for a ticket that has been redeemed, by what comes back for the check of
the bearer. -/
inductive Concluded (waits : System) (number : Nat) (redemption : Redemption) (check : Answer)
    (after : System) : Prop where
  | unsent (illegal : Credential.isLegalHeader (Credential.bearer redemption.bearer).header = false)
      (sent : after.sent = waits.sent) (same : after.controller = waits.controller)
      (ended : after.Ended number (.failed (.polling .transport)))
  | failed {error : FetchError} (asks : Asks waits redemption.bearer after)
      (fails : check.Fails Reputation.decodeReport error)
      (same : after.controller = waits.controller)
      (ended : after.Ended number (.failed (.polling error)))
  | unsaved {reputation : Reputation} {error : StoreError}
      (asks : Asks waits redemption.bearer after)
      (carries : check.Carries Reputation.decodeReport reputation)
      (unsaved : (waits.controller.store.save
        ⟨redemption.bearer, redemption.profile, reputation⟩).2 = .error error)
      (unchanged : waits.controller.Unchanged after.controller)
      (ended : after.Ended number (.failed (.store error)))
  | loggedIn {reputation : Reputation} (asks : Asks waits redemption.bearer after)
      (carries : check.Carries Reputation.decodeReport reputation)
      (saved : (waits.controller.store.save
        ⟨redemption.bearer, redemption.profile, reputation⟩).2 = .ok ())
      (session : after.controller.session =
        .authenticated ⟨redemption.bearer, redemption.profile, reputation⟩)
      (watched : after.controller.watched = true)
      (holds : after.controller.store.entries.Holds
        ⟨redemption.bearer, redemption.profile, reputation⟩)
      (ended : after.Ended number (.loggedIn redemption.profile))

/-- How polling ends with the first answer that is not pending. -/
inductive Decided (waits : System) (number : Nat) (decisive check : Answer) (after : System) :
    Prop where
  | failed {error : FetchError} (fails : decisive.Fails Redemption.decode error)
      (sent : after.sent = waits.sent) (same : after.controller = waits.controller)
      (ended : after.Ended number (.failed (.polling error)))
  | redeemed {redemption : Redemption} (carries : decisive.Carries Redemption.decode redemption)
      (concluded : Concluded waits number redemption check after)

section Deciding

variable {waits system : System} {number : Nat} {ticket : String} {interval : Nat}

theorem commit_of_free (ticket : String) (interval : Nat) {controller : Controller} {session : SignedIn}
    (anonymous : controller.session = .anonymous) :
    let poller : Poller := ⟨ticket, interval, false, .committing session⟩
    ((controller.store.save session).2 = .ok () ∧ poller.commit controller =
        (controller.enter session, poller.finish (.loggedIn session.profile))) ∨
      ∃ error, (controller.store.save session).2 = .error error ∧ poller.commit controller =
        (controller.miss session, poller.finish (.failed (.store error))) := by
  intro poller
  rcases controller.loginIfAnonymous_cases false session with
    ⟨cancelled, _⟩ | ⟨authenticated, _⟩ | ⟨_, _, ⟨saved, result⟩ | ⟨error, unsaved, result⟩⟩
  · contradiction
  · simp [anonymous, Session.isAuthenticated] at authenticated
  · exact .inl ⟨saved, by simp [poller, Poller.commit, result]⟩
  · exact .inr ⟨error, unsaved, by simp [poller, Poller.commit, result]⟩

/-- A poller that waits for the answer to a check ends with it. -/
theorem concluded_of_checking {redemption : Redemption}
    (readable : (Url.parse? (waits.client.url "")).isSome = true)
    (anonymous : waits.controller.session = .anonymous)
    (unwatched : waits.controller.watched = false)
    (stands : system.Stands number ⟨ticket, interval, false, .checking redemption⟩ waits.controller
      (waits.sent ++ (waits.client.checkRequest? redemption.bearer).toList)) (check : Answer) :
    Concluded waits number redemption check
      (system.run ((Poller.round check).map (.poll number))) := by
  have builds := waits.client.builds_call? "GET" "/auth/check" (some redemption.bearer) ""
  cases built : waits.client.checkRequest? redemption.bearer with
  | none =>
      rw [built] at stands
      have asking : Poller.request? ⟨ticket, interval, false, .checking redemption⟩
          waits.controller.client = some none := congrArg some built
      have failed : Poller.receive ⟨ticket, interval, false, .checking redemption⟩
          (heard none check) =
          ⟨ticket, interval, false, .ended (.failed (.polling .transport))⟩ := rfl
      have ended := stands.round_of_busy rfl unwatched asking (by rw [failed]; simp)
      rw [failed, Option.toList_none, List.append_nil] at ended
      have unbuilt : waits.client.call? "GET" "/auth/check" (some redemption.bearer) "" = none :=
        built
      rw [unbuilt] at builds
      cases builds with
      | nothing fault =>
          rcases fault with unread | ⟨token, same, illegal⟩
          · have read := Client.parse?_url_isSome readable "/auth/check"
            rw [unread] at read
            contradiction
          · obtain rfl := Option.some.inj same
            exact .unsent illegal (by simpa [Poller.request?] using ended.sent) ended.controller
              (ended.ended rfl)
  | some request =>
      rw [built] at stands
      have isBuilt : waits.client.call? "GET" "/auth/check" (some redemption.bearer) "" =
          some request := built
      rw [isBuilt] at builds
      rcases check.reputation_cases with
        ⟨reputation, reported, carries⟩ | ⟨error, refused, fails⟩
      · have ended := stands.round_of_reported unwatched built reported
        rcases commit_of_free ticket interval anonymous with
          ⟨saved, result⟩ | ⟨error, unsaved, result⟩
        · rw [result] at ended
          have asks : Asks waits redemption.bearer _ :=
            ⟨request, builds, ended.sent⟩
          have now : (system.run ((Poller.round check).map (.poll number))).controller =
            waits.controller.enter ⟨redemption.bearer, redemption.profile, reputation⟩ :=
              ended.controller
          have sound := Controller.sound_enter saved
          rw [← now] at sound
          have session := congrArg Controller.session now
          refine .loggedIn asks carries saved session ?_ (sound.holds _ session) (ended.ended rfl)
          rw [sound.watched, session]
          rfl
        · rw [result] at ended
          have asks : Asks waits redemption.bearer _ :=
            ⟨request, builds, ended.sent⟩
          have now : (system.run ((Poller.round check).map (.poll number))).controller =
            waits.controller.miss ⟨redemption.bearer, redemption.profile, reputation⟩ :=
              ended.controller
          have unchanged := Controller.unchanged_miss unsaved
          rw [← now] at unchanged
          exact .unsaved asks carries unsaved unchanged (ended.ended rfl)
      · have ended := stands.round_of_unreported unwatched built refused
        exact .failed ⟨request, builds, ended.sent⟩ fails ended.controller (ended.ended rfl)

/-- A poller that waits for an answer about its ticket ends with the first one that is not
pending, or with the check that follows it. -/
theorem decided_of_asking {request : Request}
    (readable : (Url.parse? (waits.client.url "")).isSome = true)
    (anonymous : waits.controller.session = .anonymous)
    (unwatched : waits.controller.watched = false)
    (built : waits.client.pollRequest? ticket = some request)
    (stands : waits.Stands number ⟨ticket, interval, false, .asking⟩ waits.controller waits.sent)
    {decisive : Answer} (decides : ¬ decisive.IsPending) (check : Answer) :
    Decided waits number decisive check
      (waits.run (([decisive, check].flatMap Poller.round).map (.poll number))) := by
  rw [List.flatMap_cons, List.flatMap_singleton, List.map_append, run_append]
  rcases decisive.poll_cases with
    ⟨_, pending⟩ | ⟨redemption, redeemed, carries⟩ | ⟨error, failed, fails⟩
  · exact absurd pending decides
  · have next := stands.round_of_redeemed unwatched built redeemed
    exact .redeemed carries (concluded_of_checking readable anonymous unwatched next check)
  · have ended := stands.round_of_failed unwatched built failed
    have still := ended.round_of_ended rfl check
    exact .failed fails still.sent still.controller (still.ended rfl)

end Deciding

theorem stands_started (system : System) (ticket : String) (interval : Nat) :
    (system.step (.startPolling ticket interval)).Stands system.pollers.length
      ⟨ticket, interval, false, .fresh⟩ system.controller system.sent := by
  refine ⟨⟨.handle, ?_⟩, rfl, rfl⟩
  simp [step, startPolling, poller?]

theorem Stands.asking {system : System} {number : Nat} {ticket : String} {interval : Nat}
    {controller : Controller} {requests : List Request}
    (stands : system.Stands number ⟨ticket, interval, false, .fresh⟩ controller requests)
    (anonymous : controller.session = .anonymous) :
    (system.run (polling number [])).Stands number ⟨ticket, interval, false, .asking⟩ controller
      (requests ++ (controller.client.pollRequest? ticket).toList) := by
  have begun := stands.begin
  rw [anonymous] at begun
  exact begun.ask rfl

theorem stands_asking {system : System} (ticket : String) (interval : Nat)
    (anonymous : system.controller.session = .anonymous) :
    ((system.step (.startPolling ticket interval)).run
        (polling system.pollers.length [])).Stands system.pollers.length
      ⟨ticket, interval, false, .asking⟩ system.controller
      (system.sent ++ (system.client.pollRequest? ticket).toList) :=
  (stands_started system ticket interval).asking anonymous

theorem polling_append (number : Nat) (first second : List Answer) :
    polling number (first ++ second) =
      polling number first ++ (second.flatMap Poller.round).map (.poll number) := by
  simp [polling]

end System

end SignIn
