import SignIn.Client
import SignIn.Proofs.Web.Url
import SignIn.Proofs.Text.Utf8

/-!
# What the client asks and what it makes of answers

A request is built if its address can be read and its bearer fits a header; it then carries
that bearer after whatever user the address names.  A bearer counts as accepted only if the
answer has the plain status of success and a whole body that can be read.
-/

namespace SignIn

theorem Url.takeUser_of_empty {url : Url} (username : url.username = "")
    (password : url.password = none) : url.takeUser = (none, url) := by
  have nobody : Utf8.decode? (Percent.decode (Utf8.encode "")) = some "" := Utf8.decode?_encode ""
  unfold Url.takeUser
  rw [username, password]
  simp only [nobody]
  rfl

namespace Client

/-- The address of the root: the base with a slash behind it. -/
theorem url_root (client : Client) : client.url "" = client.base ++ "/" := by
  simp [url, Trim.leading]

/-- What is built for a call: a request, or nothing. -/
inductive Builds (client : Client) (method path : String) (bearer : Option String)
    (body : String) : Option Request → Prop where
  | request {address : Url} (parsed : Url.parse? (client.url path) = some address)
      (legal : ∀ token, bearer = some token →
        Credential.isLegalHeader (Credential.bearer token).header = true) :
      Builds client method path bearer body (some
        { method
          url := address.takeUser.2
          credentials := address.takeUser.1.toList ++ (bearer.map .bearer).toList
          body })
  | nothing (fault : Url.parse? (client.url path) = none ∨ ∃ token, bearer = some token ∧
        Credential.isLegalHeader (Credential.bearer token).header = false) :
      Builds client method path bearer body none

theorem builds_call? (client : Client) (method path : String) (bearer : Option String)
    (body : String) :
    client.Builds method path bearer body (client.call? method path bearer body) := by
  unfold call? request?
  cases parsed : Url.parse? (client.url path) with
  | none => exact .nothing (.inl parsed)
  | some address =>
      cases bearer with
      | none =>
          have built : client.Builds method path none body _ := .request parsed (by simp)
          simpa [attach?] using built
      | some token =>
          cases legal : Credential.isLegalHeader (Credential.bearer token).header with
          | true =>
              have built : client.Builds method path (some token) body _ :=
                .request parsed (by simpa using legal)
              simpa [attach?, legal] using built
          | false =>
              have fault : client.Builds method path (some token) body none :=
                .nothing (.inr ⟨token, rfl, legal⟩)
              simpa [attach?, legal] using fault

/-- If the address of the root can be read, so can the address of every path. -/
theorem parse?_url_isSome {client : Client}
    (readable : (Url.parse? (client.url "")).isSome = true) (path : String) :
    (Url.parse? (client.url path)).isSome = true := by
  obtain ⟨root, parsed⟩ := Option.isSome_iff_exists.mp readable
  rw [url_root] at parsed
  obtain ⟨scheme, authority, before, reads⟩ := Url.parse?_append parsed
  rw [url, reads]
  rfl

theorem exists_builds_of_readable {client : Client}
    (readable : (Url.parse? (client.url "")).isSome = true) (path : String) :
    ∃ request, client.get? path none = some request ∧
      client.Builds "GET" path none "" (some request) := by
  have parsed := parse?_url_isSome readable path
  have builds : client.Builds "GET" path none "" (client.get? path none) :=
    client.builds_call? "GET" path none ""
  cases built : client.get? path none with
  | none =>
      rw [built] at builds
      cases builds with
      | nothing fault =>
          rcases fault with unread | ⟨_, absent, _⟩
          · rw [unread] at parsed
            contradiction
          · contradiction
  | some request =>
      rw [built] at builds
      exact ⟨request, rfl, builds⟩

end Client

theorem Response.decode_eq_ok_iff {α : Type} {decoder : Octets → Except Json.DecodeError α}
    {response : Response} {value : α} :
    response.decode decoder = .ok value ↔
      response.body.complete = true ∧ decoder response.body.octets = .ok value := by
  unfold decode octets
  cases response.body.complete with
  | false => simp
  | true =>
      rw [if_pos rfl]
      simp only [true_and]
      cases decoder response.body.octets with
      | error error =>
          constructor
          · intro decoded
            contradiction
          · intro decoded
            contradiction
      | ok found =>
          show (Except.ok found : Except FetchError α) = .ok value ↔ _
          simp

namespace Answer

theorem status_eq_ok_iff {response : Response} :
    response.status = .ok ↔ response.status.code = 200 := by
  obtain ⟨⟨code, bounded⟩, body⟩ := response
  simp [Status.ok]

theorem status_eq_noContent_iff {response : Response} :
    response.status = .noContent ↔ response.status.code = 204 := by
  obtain ⟨⟨code, bounded⟩, body⟩ := response
  simp [Status.noContent]

/-- An answer reports a reputation if it has the plain status of success and a whole body
that decodes to that reputation. -/
theorem reputation_eq_ok_iff {answer : Answer} {reputation : Reputation} :
    answer.reputation = .ok reputation ↔
      ∃ response, answer = .received response ∧ response.status.code = 200 ∧
        response.body.complete = true ∧
        Reputation.decodeReport response.body.octets = .ok reputation := by
  cases answer with
  | failed => simp [Answer.reputation]
  | received response =>
      simp only [Answer.reputation, received.injEq, exists_eq_left', ← status_eq_ok_iff]
      by_cases status : response.status = .ok
      · simp [status, Response.decode_eq_ok_iff]
      · simp [status]

/-- An answer carries a value: it has the plain status of success and a whole body that decodes
to that value. -/
structure Carries {α : Type} (decoder : Octets → Except Json.DecodeError α) (answer : Answer)
    (value : α) : Prop where
  came : ∃ response, answer = .received response ∧ response.status.code = 200 ∧
    response.body.complete = true ∧ decoder response.body.octets = .ok value

/-- Why an answer carries no value: none came, its status is another one and is told with what
the body says, its body broke off, or its body does not decode. -/
inductive Fails {α : Type} (decoder : Octets → Except Json.DecodeError α) (answer : Answer) :
    FetchError → Prop where
  | lost (nothing : answer = .failed) : Fails decoder answer .transport
  | refused {response : Response} (came : answer = .received response)
      (other : response.status.code ≠ 200) :
      Fails decoder answer (.refused (.ofText response.status response.text))
  | broken {response : Response} (came : answer = .received response)
      (plain : response.status.code = 200) (rest : response.body.complete = false) :
      Fails decoder answer .transport
  | undecodable {response : Response} {error : Json.DecodeError}
      (came : answer = .received response) (plain : response.status.code = 200)
      (whole : response.body.complete = true)
      (refused : decoder response.body.octets = .error error) :
      Fails decoder answer (.undecodable error)

/-- The server has nothing to say yet, whatever the body. -/
def IsPending (answer : Answer) : Prop :=
  ∃ response, answer = .received response ∧ response.status.code = 204

/-- A response with the plain status of success carries what it decodes to, or it fails. -/
theorem decode_cases {α : Type} (decoder : Octets → Except Json.DecodeError α)
    {response : Response} (plain : response.status.code = 200) :
    (∃ value, response.decode decoder = .ok value ∧ Carries decoder (.received response) value) ∨
      ∃ error, response.decode decoder = .error error ∧
        Fails decoder (.received response) error := by
  unfold Response.decode Response.octets
  cases whole : response.body.complete with
  | false => exact .inr ⟨.transport, rfl, .broken rfl plain whole⟩
  | true =>
      cases decoded : decoder response.body.octets with
      | ok value => exact .inl ⟨value, by simp [decoded]; rfl, ⟨response, rfl, plain, whole, decoded⟩⟩
      | error error =>
          exact .inr ⟨.undecodable error, by simp [decoded]; rfl,
            .undecodable rfl plain whole decoded⟩

theorem reputation_cases (answer : Answer) :
    (∃ reputation, answer.reputation = .ok reputation ∧
        Carries Reputation.decodeReport answer reputation) ∨
      ∃ error, answer.reputation = .error error ∧ Fails Reputation.decodeReport answer error := by
  cases answer with
  | failed => exact .inr ⟨.transport, rfl, .lost rfl⟩
  | received response =>
      by_cases plain : response.status = .ok
      · have decided := decode_cases Reputation.decodeReport (status_eq_ok_iff.mp plain)
        simpa only [Answer.reputation, if_pos plain] using decided
      · refine .inr ⟨response.refusal, by simp only [Answer.reputation, if_neg plain], ?_⟩
        exact .refused rfl fun code => plain (status_eq_ok_iff.mpr code)

/-- What is made of an answer to a poll: it is pending by its status alone, and otherwise carries
a redemption or fails. -/
theorem poll_cases (answer : Answer) :
    (answer.poll = .pending ∧ answer.IsPending) ∨
      ((∃ redemption, answer.poll = .redeemed redemption ∧
          Carries Redemption.decode answer redemption) ∨
        ∃ error, answer.poll = .failed error ∧ Fails Redemption.decode answer error) := by
  cases answer with
  | failed => exact .inr (.inr ⟨.transport, rfl, .lost rfl⟩)
  | received response =>
      by_cases plain : response.status = .ok
      · right
        rcases decode_cases Redemption.decode (status_eq_ok_iff.mp plain) with
          ⟨redemption, decoded, carries⟩ | ⟨error, failed, fails⟩
        · exact .inl ⟨redemption, by simp only [Answer.poll, if_pos plain, decoded], carries⟩
        · exact .inr ⟨error, by simp only [Answer.poll, if_pos plain, failed], fails⟩
      · by_cases pending : response.status = .noContent
        · exact .inl ⟨by simp only [Answer.poll, if_neg plain, if_pos pending],
            response, rfl, status_eq_noContent_iff.mp pending⟩
        · refine .inr (.inr ⟨response.refusal, ?_, ?_⟩)
          · simp only [Answer.poll, if_neg plain, if_neg pending]
          · exact .refused rfl fun code => plain (status_eq_ok_iff.mpr code)

theorem poll_eq_redeemed_iff {answer : Answer} {redemption : Redemption} :
    answer.poll = .redeemed redemption ↔ answer.Carries Redemption.decode redemption := by
  constructor
  · intro redeemed
    rcases answer.poll_cases with ⟨pending, _⟩ | ⟨found, same, carries⟩ | ⟨error, failed, _⟩
    · rw [redeemed] at pending
      contradiction
    · rw [redeemed] at same
      obtain rfl := PollOutcome.redeemed.inj same
      exact carries
    · rw [redeemed] at failed
      contradiction
  · intro carries
    obtain ⟨response, rfl, code, whole, decoded⟩ := carries.came
    have plain := status_eq_ok_iff.mpr code
    have read := Response.decode_eq_ok_iff.mpr ⟨whole, decoded⟩
    simp only [Answer.poll, if_pos plain, read]

theorem poll_of_isPending {answer : Answer} (pending : answer.IsPending) :
    answer.poll = .pending := by
  obtain ⟨response, rfl, code⟩ := pending
  have noContent := status_eq_noContent_iff.mpr code
  have plain : response.status ≠ .ok := by
    rw [noContent]
    decide
  simp only [Answer.poll, if_neg plain, if_pos noContent]

/-- An answer with a text and the plain status of success. -/
def ofText (text : String) : Answer :=
  .received ⟨.ok, { octets := Utf8.encode text }⟩

section OfText

variable {text : String}

theorem poll_ofText {redemption : Redemption}
    (read : Redemption.decode (Utf8.encode text) = .ok redemption) :
    (ofText text).poll = .redeemed redemption := by
  have decoded : Response.decode Redemption.decode ⟨.ok, { octets := Utf8.encode text }⟩ =
      .ok redemption := Response.decode_eq_ok_iff.mpr ⟨rfl, read⟩
  simp [poll, ofText, decoded]

theorem reputation_ofText :
    (ofText text).reputation =
      (Reputation.decodeReport (Utf8.encode text)).mapError .undecodable := by
  simp [reputation, ofText, Response.decode, Response.octets]

theorem ticket_ofText :
    (ofText text).ticket = (Ticket.decode (Utf8.encode text)).mapError .undecodable :=
  rfl

theorem account_ofText :
    (ofText text).account = (Account.decode (Utf8.encode text)).mapError .undecodable :=
  rfl

end OfText

end Answer

end SignIn
