import SignIn.Stage.Play
import SignIn.Proofs.Client
import SignIn.Proofs.Json.Natural

/-!
# How a refusal is told

Calls that look at a status accept different ones, but what they do not accept they tell in the same
words: the text of the body without line breaks or, where that leaves nothing, the phrase or
the digits of the status.  Such a message is never empty, has no line break, and is told again as it
is.
-/

namespace SignIn

/-- What is left of a text without its line breaks: everything else, in its order. -/
inductive Strips : List Char → List Char → Prop where
  | nil : Strips [] []
  | dropped {letter : Char} {text kept : List Char} (breaks : letter = '\n' ∨ letter = '\r')
      (rest : Strips text kept) : Strips (letter :: text) kept
  | kept {letter : Char} {text kept : List Char} (other : letter ≠ '\n' ∧ letter ≠ '\r')
      (rest : Strips text kept) : Strips (letter :: text) (letter :: kept)

namespace Strips

theorem no_break {text kept : List Char} (strips : Strips text kept) {letter : Char}
    (member : letter ∈ kept) : letter ≠ '\n' ∧ letter ≠ '\r' := by
  induction strips with
  | nil => contradiction
  | dropped _ _ ih => exact ih member
  | kept other _ ih =>
      rcases List.mem_cons.mp member with rfl | later
      · exact other
      · exact ih later

theorem unique {text first second : List Char} (strips : Strips text first)
    (again : Strips text second) : first = second := by
  induction strips generalizing second with
  | nil =>
      cases again
      rfl
  | dropped breaks _ ih =>
      cases again with
      | dropped _ rest => exact ih rest
      | kept other _ => exact (breaks.elim other.1 other.2).elim
  | kept other _ ih =>
      cases again with
      | dropped breaks _ => exact (breaks.elim other.1 other.2).elim
      | kept _ rest => rw [ih rest]

theorem of_no_break {text : List Char}
    (unbroken : ∀ letter ∈ text, letter ≠ '\n' ∧ letter ≠ '\r') : Strips text text := by
  induction text with
  | nil => exact .nil
  | cons letter text ih =>
      apply Strips.kept (unbroken letter (by simp))
      exact ih fun other member => unbroken other (List.mem_cons_of_mem letter member)

end Strips

namespace RequestError

theorem strips_unbroken (text : String) : Strips text.toList (unbroken text).toList := by
  rw [unbroken, String.toList_ofList]
  induction text.toList with
  | nil => exact .nil
  | cons letter letters ih =>
      by_cases breaks : letter = '\n' ∨ letter = '\r'
      · rw [List.filter_cons_of_neg (by rcases breaks with rfl | rfl <;> decide)]
        exact .dropped breaks ih
      · have other : letter ≠ '\n' ∧ letter ≠ '\r' := not_or.mp breaks
        rw [List.filter_cons_of_pos (by simpa using other)]
        exact .kept other ih

theorem unbroken_eq_self {text : String}
    (unbroken : ∀ letter ∈ text.toList, letter ≠ '\n' ∧ letter ≠ '\r') :
    RequestError.unbroken text = text :=
  String.toList_inj.mp ((strips_unbroken text).unique (.of_no_break unbroken))

end RequestError

namespace Status

def words (status : Status) : String :=
  status.phrase?.getD (toString status.code)

theorem phrases_unbroken : ∀ entry ∈ phrases, entry.2.toList ≠ [] ∧
    ∀ letter ∈ entry.2.toList, letter ≠ '\n' ∧ letter ≠ '\r' := by
  have all : phrases.all (fun entry => !entry.2.toList.isEmpty &&
      entry.2.toList.all fun letter => letter != '\n' && letter != '\r') = true := by
    decide +kernel
  intro entry member
  simpa using List.all_eq_true.mp all entry member

theorem digits_unbroken (code : Nat) : (toString code).toList ≠ [] ∧
    ∀ letter ∈ (toString code).toList, letter ≠ '\n' ∧ letter ≠ '\r' := by
  obtain ⟨first, digits, written, decimal, _⟩ := Json.exists_toDigits code
  have letters : (toString code).toList = first :: digits := by
    show (Nat.repr code).toList = _
    rw [Nat.repr, String.toList_ofList, written]
  rw [letters]
  refine ⟨by simp, ?_⟩
  intro letter member
  have digit := decimal letter member
  constructor
  · rintro rfl
    contradiction
  · rintro rfl
    contradiction

/-- The words for a status are there and stand on one line. -/
theorem words_unbroken (status : Status) : status.words.toList ≠ [] ∧
    ∀ letter ∈ status.words.toList, letter ≠ '\n' ∧ letter ≠ '\r' := by
  cases found : status.phrase? with
  | none =>
      rw [words, found, Option.getD_none]
      exact digits_unbroken status.code
  | some phrase =>
      rw [words, found, Option.getD_some]
      obtain ⟨entry, named, rfl⟩ := Option.map_eq_some_iff.mp found
      exact phrases_unbroken entry (List.mem_of_find?_eq_some named)

end Status

namespace RequestError

/-- An error that tells a refusal: its status, and what the body says on one line, or the words
for the status if the body says nothing. -/
structure Tells (given : Status) (text : String) (error : RequestError) : Prop where
  status : error.status = given
  message : ∃ kept : String, Strips text.toList kept.toList ∧
    error.message = if kept = "" then given.words else kept

theorem tells_ofText (status : Status) (text : String) :
    Tells status text (.ofText status text) where
  status := rfl
  message := ⟨unbroken text, strips_unbroken text, rfl⟩

namespace Tells

variable {status : Status} {text : String} {error : RequestError}

theorem unique (tells : Tells status text error) : error = .ofText status text := by
  obtain ⟨kept, strips, message⟩ := tells.message
  obtain rfl : kept = unbroken text :=
    String.toList_inj.mp (strips.unique (strips_unbroken text))
  obtain ⟨told, words⟩ := error
  obtain rfl : told = status := tells.status
  simp only at message
  rw [message]
  rfl

theorem message_unbroken (tells : Tells status text error) : error.message ≠ "" ∧
    ∀ letter ∈ error.message.toList, letter ≠ '\n' ∧ letter ≠ '\r' := by
  obtain ⟨kept, strips, message⟩ := tells.message
  rw [message]
  by_cases nothing : kept = ""
  · rw [if_pos nothing]
    obtain ⟨some, unbroken⟩ := status.words_unbroken
    exact ⟨fun empty => some (by rw [empty]; rfl), unbroken⟩
  · rw [if_neg nothing]
    exact ⟨nothing, fun letter member => strips.no_break member⟩

theorem again (tells : Tells status text error) : ofText status error.message = error := by
  obtain ⟨some, onOneLine⟩ := tells.message_unbroken
  have kept := unbroken_eq_self onOneLine
  obtain ⟨told, message⟩ := error
  obtain rfl : told = status := tells.status
  rw [ofText, kept, if_neg some]

end Tells

end RequestError

def FetchError.refusal? : FetchError → Option RequestError
  | refused error => some error
  | transport | undecodable _ => none

/-- The refusal that something has failed with, if it has failed with one. -/
def refusalOf? {α : Type} : Except FetchError α → Option RequestError
  | .error error => error.refusal?
  | .ok _ => none

namespace Response

variable (response : Response)

def told : RequestError :=
  .ofText response.status response.text

theorem refusalOf?_decode {α : Type} (decoder : Octets → Except Json.DecodeError α) :
    refusalOf? (response.decode decoder) = none := by
  unfold decode octets
  cases response.body.complete with
  | false => rfl
  | true =>
      rw [if_pos rfl]
      simp only
      cases decoder response.body.octets with
      | ok value => rfl
      | error fault => rfl

end Response

namespace Answer

variable (response : Response)

theorem success_received : (received response).success =
    if 200 ≤ response.status.code ∧ response.status.code ≤ 299 then .ok response
    else .error (.refused response.told) := by
  simp only [success, Status.isSuccess, Bool.and_eq_true, decide_eq_true_eq]
  rfl

theorem refusalOf?_success : refusalOf? (received response).success =
    if 200 ≤ response.status.code ∧ response.status.code ≤ 299 then none
    else some response.told := by
  rw [success_received]
  by_cases taken : 200 ≤ response.status.code ∧ response.status.code ≤ 299
  · rw [if_pos taken, if_pos taken]
    rfl
  · rw [if_neg taken, if_neg taken]
    rfl

theorem refusalOf?_decode {α : Type} (decoder : Octets → Except Json.DecodeError α) :
    refusalOf? ((received response).decode decoder) =
      if 200 ≤ response.status.code ∧ response.status.code ≤ 299 then none
      else some response.told := by
  rw [decode, success_received]
  by_cases taken : 200 ≤ response.status.code ∧ response.status.code ≤ 299
  · rw [if_pos taken, if_pos taken]
    exact response.refusalOf?_decode decoder
  · rw [if_neg taken, if_neg taken]
    rfl

theorem refusalOf?_reputation : refusalOf? (received response).reputation =
    if response.status.code = 200 then none else some response.told := by
  simp only [reputation, status_eq_ok_iff]
  by_cases plain : response.status.code = 200
  · rw [if_pos plain, if_pos plain]
    exact response.refusalOf?_decode Reputation.decodeReport
  · rw [if_neg plain, if_neg plain]
    rfl

end Answer

/-- The refusal that a poll has failed with, if it has failed with one. -/
def PollOutcome.refusal? : PollOutcome → Option RequestError
  | failed error => error.refusal?
  | pending | redeemed _ => none

theorem Answer.refusal?_poll (response : Response) : (received response).poll.refusal? =
    if response.status.code = 200 ∨ response.status.code = 204 then none
    else some response.told := by
  simp only [poll, status_eq_ok_iff, status_eq_noContent_iff]
  by_cases plain : response.status.code = 200
  · rw [if_pos plain, if_pos (.inl plain)]
    have readable := response.refusalOf?_decode Redemption.decode
    cases decoded : response.decode Redemption.decode with
    | ok redemption => rfl
    | error error =>
        rw [decoded] at readable
        exact readable
  · rw [if_neg plain]
    by_cases pending : response.status.code = 204
    · rw [if_pos pending, if_pos (.inr pending)]
      rfl
    · rw [if_neg pending, if_neg (not_or.mpr ⟨plain, pending⟩)]
      rfl

namespace Stage

/-- The steps that look at the status of an answer. -/
inductive Query where
  | send (method path : String) (bearer : Option String) (body : String)
  | get (path : String) (bearer : Option String)
  | ticket
  | reputation (bearer : String)
  | poll (id : String)

namespace Query

def step : Query → Step
  | send method path bearer body => .send method path bearer body
  | get path bearer => .get path bearer
  | ticket => .begin
  | reputation bearer => .fetchReputation bearer
  | poll id => .pollOnce id

def request? (client : Client) : Query → Option Request
  | send method path bearer body => client.call? method path bearer body
  | get path bearer => client.get? path bearer
  | ticket => client.ticketRequest?
  | reputation bearer => client.checkRequest? bearer
  | poll id => client.pollRequest? id

/-- Whether a code is not refused. -/
def accepts (code : Nat) : Query → Bool
  | send .. | get .. | ticket => 200 ≤ code ∧ code ≤ 299
  | reputation _ => code = 200
  | poll _ => code = 200 ∨ code = 204

end Query

/-- The refusal that a step has come to, if that is what it has come to. -/
def Outcome.refusal? : Outcome → Option RequestError
  | fetchError error => error.refusal?
  | sessionError (.begin error) => error.refusal?
  | polled outcome => outcome.refusal?
  | _ => none

section Play

variable (stage : Stage)

theorem refusal?_ofFetch (fetched : Except FetchError Response) :
    (ofFetch fetched).refusal? = refusalOf? fetched := by
  cases fetched with
  | ok response => rfl
  | error error => rfl

theorem play_begin : (stage.play .begin).2 =
    match (stage.call stage.client.ticketRequest?).2.ticket with
    | .ok ticket => .begun ticket
    | .error error => .sessionError (.begin error) := rfl

theorem play_fetchReputation (bearer : String) : (stage.play (.fetchReputation bearer)).2 =
    match (stage.call (stage.client.checkRequest? bearer)).2.reputation with
    | .ok reputation => .reputation reputation
    | .error error => .fetchError error := rfl

theorem refusal?_begin : (stage.play .begin).2.refusal? =
    refusalOf? (stage.call stage.client.ticketRequest?).2.ticket := by
  rw [play_begin]
  cases (stage.call stage.client.ticketRequest?).2.ticket with
  | ok ticket => rfl
  | error error => rfl

theorem refusal?_fetchReputation (bearer : String) :
    (stage.play (.fetchReputation bearer)).2.refusal? =
      refusalOf? (stage.call (stage.client.checkRequest? bearer)).2.reputation := by
  rw [play_fetchReputation]
  cases (stage.call (stage.client.checkRequest? bearer)).2.reputation with
  | ok reputation => rfl
  | error error => rfl

end Play

/-- A step that has been answered comes to the refusal told of the response, unless it takes the
code. -/
theorem refusal?_play {stage : Stage} {query : Query} {response : Response}
    (answered : (stage.call (query.request? stage.client)).2 = .received response) :
    (stage.play query.step).2.refusal? =
      if query.accepts response.status.code then none else some response.told := by
  cases query with
  | send method path bearer body =>
      have came : (stage.call (stage.client.call? method path bearer body)).2 =
          .received response := answered
      show (ofFetch
        (stage.call (stage.client.call? method path bearer body)).2.success).refusal? = _
      rw [refusal?_ofFetch, came, Answer.refusalOf?_success]
      simp only [Query.accepts, decide_eq_true_eq]
  | get path bearer =>
      have came : (stage.call (stage.client.get? path bearer)).2 = .received response := answered
      show (ofFetch (stage.call (stage.client.get? path bearer)).2.success).refusal? = _
      rw [refusal?_ofFetch, came, Answer.refusalOf?_success]
      simp only [Query.accepts, decide_eq_true_eq]
  | ticket =>
      have came : (stage.call stage.client.ticketRequest?).2 = .received response := answered
      rw [Query.step, refusal?_begin, came, Answer.ticket, Answer.refusalOf?_decode]
      simp only [Query.accepts, decide_eq_true_eq]
  | reputation bearer =>
      have came : (stage.call (stage.client.checkRequest? bearer)).2 = .received response :=
        answered
      rw [Query.step, refusal?_fetchReputation, came, Answer.refusalOf?_reputation]
      simp only [Query.accepts, decide_eq_true_eq]
  | poll id =>
      have came : (stage.call (stage.client.pollRequest? id)).2 = .received response := answered
      show (stage.call (stage.client.pollRequest? id)).2.poll.refusal? = _
      rw [came, Answer.refusal?_poll]
      simp only [Query.accepts, decide_eq_true_eq]

end Stage

/-- Every look at a response refuses codes of its own and tells a refusal in the same way: by the
status and the text of the body without line breaks, or else by the words for the status.  The
message is there, stands on one line, and is told again as it is. -/
theorem refusals_agree (response : Response) :
    (∀ (stage : Stage) (query : Stage.Query),
      (stage.call (query.request? stage.client)).2 = .received response →
      (stage.play query.step).2.refusal? =
        if query.accepts response.status.code then none else some response.told) ∧
    (∀ {α : Type} (decoder : Octets → Except Json.DecodeError α),
      refusalOf? ((Answer.received response).decode decoder) =
        if 200 ≤ response.status.code ∧ response.status.code ≤ 299 then none
        else some response.told) ∧
    (∀ error : RequestError, error = response.told ↔
      RequestError.Tells response.status
        (if response.body.complete then Utf8.decodeLossy response.body.octets else "")
        error) ∧
    (response.told.message ≠ "" ∧
      ∀ letter ∈ response.told.message.toList, letter ≠ '\n' ∧ letter ≠ '\r') ∧
    RequestError.ofText response.status response.told.message = response.told := by
  have tells := RequestError.tells_ofText response.status response.text
  refine ⟨fun stage query answered => Stage.refusal?_play answered, ?_, ?_, ?_, ?_⟩
  · intro α decoder
    exact Answer.refusalOf?_decode response decoder
  · intro error
    constructor
    · rintro rfl
      exact tells
    · intro told
      exact told.unique
  · exact tells.message_unbroken
  · exact tells.again

/-- A body of two lines is told on one when a ticket is asked about. -/
theorem two_lines_told_on_one :
    let response : Response :=
      { status := .unavailable, body := { octets := Utf8.encode "down\r\nfor now" } }
    let stage := Stage.start (.ofBase "http://localhost") (.memory .empty)
      (.script [{ answer := .received response }]) true fun _ => "ticket"
    (stage.call (stage.client.pollRequest? "7")).2 = .received response ∧
      (stage.play (.pollOnce "7")).2.refusal? = some ⟨.unavailable, "downfor now"⟩ := by
  intro response stage
  have came : (stage.call (stage.client.pollRequest? "7")).2 = .received response := by
    decide +kernel
  have told : response.told = ⟨.unavailable, "downfor now"⟩ := by decide +kernel
  have refused := (refusals_agree response).1 stage (.poll "7") came
  rw [told] at refused
  exact ⟨came, refused⟩

end SignIn
