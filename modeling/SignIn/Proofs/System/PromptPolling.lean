import SignIn.Proofs.System.PromptTickets

/-!
# Starting to poll

A call to start that returns while nobody is signed in leaves the prompt with a poller for its
ticket.  Whether that one is at work is another matter: the call looks at whether the prompt
holds a poller, and not at whether the poller has ended.  So a prompt whose poller has failed
polls again only once someone has waited for that poller.
-/

namespace SignIn

namespace System

def promptInHand? (system : System) (number : Nat) : Option (Prompt Poller) :=
  (system.prompt? number).map fun opened =>
    { interval := opened.prompt.interval
      ticket := opened.prompt.ticket
      poller := opened.prompt.poller.bind fun task =>
        (system.poller? task).map PollTask.poller }

/-- Whether the prompt of a number has a poller that has not ended. -/
def isPolling (system : System) (number : Nat) : Bool :=
  (system.promptInHand? number).any Prompt.isPolling

/-- A call to start returns its ticket: at once, if the prompt has it, or with the answer that
brings it. -/
inductive StartReturns (system : System) (number : Nat) (ticket : Ticket) :
    PromptAction → Prop where
  | known {opened : OpenPrompt} (there : system.prompt? number = some opened)
      (idle : opened.call = .idle) (has : opened.prompt.ticket = some ticket) :
      StartReturns system number ticket .start
  | brought {opened : OpenPrompt} {answer : Answer} (there : system.prompt? number = some opened)
      (fetching : opened.call = .fetching true) (heard : system.ticketHeard answer = .ok ticket) :
      StartReturns system number ticket (.receive answer)

/-- The poller that a call to start leaves its prompt with: a new one, if the prompt held none,
and otherwise the one that it held, as it was. -/
inductive StartLeaves (before : System) (number : Nat) (ticket : Ticket) (after : System) :
    Prop where
  | started {opened : OpenPrompt} (there : before.prompt? number = some opened)
      (free : opened.prompt.poller = none)
      (now : after.prompt? number = some { prompt :=
        { opened.prompt with ticket := some ticket, poller := some before.pollers.length } })
      (fresh : after.poller? before.pollers.length =
        some ⟨{ ticket := ticket.id, interval := opened.prompt.interval }, .prompt⟩)
      (polls : after.isPolling number = true)
  | held {opened : OpenPrompt} {task : Nat} (there : before.prompt? number = some opened)
      (holds : opened.prompt.poller = some task) (now : after.prompt? number = some opened)
      (pollers : after.pollers = before.pollers)
      (asks : ∀ found, after.poller? task = some found → found.poller.ticket = ticket.id)
      (polls : after.isPolling number = before.isPolling number)

section Start

variable {number : Nat} {brought : Option Ticket} {started : List Nat} {before after : System}

theorem isPolling_of_there {opened : OpenPrompt} (there : after.prompt? number = some opened) :
    after.isPolling number = ((opened.prompt.poller.bind after.poller?).any fun task =>
      task.poller.result?.isNone) := by
  simp only [isPolling, promptInHand?, there, Option.map_some, Option.any_some, Prompt.isPolling]
  cases opened.prompt.poller with
  | none => rfl
  | some task =>
      simp only [Option.bind_some]
      cases after.poller? task <;> rfl

theorem startLeaves_of_decides (tracked : Tracked number brought started before)
    {opened : OpenPrompt} (there : before.prompt? number = some opened) {ticket : Ticket}
    (anonymous : before.controller.session = .anonymous)
    (ready : opened.call = .idle ∧ opened.prompt.ticket = some ticket ∨
      opened.prompt.poller = none)
    (decides : Decides before number { opened.prompt with ticket := some ticket } ticket after) :
    StartLeaves before number ticket after := by
  have owns := tracked.owns opened there
  cases decides with
  | leaves held now pollers =>
      have holds : opened.prompt.poller ≠ none := by
        rcases held with held | authenticated
        · exact held
        · exact absurd anonymous authenticated
      obtain ⟨task, holds⟩ := Option.ne_none_iff_exists'.mp holds
      rcases ready with ⟨idle, has⟩ | free
      · have whole : opened = { prompt := { opened.prompt with ticket := some ticket } } := by
          rw [← has, ← idle]
        rw [← whole] at now
        refine .held there holds now pollers (fun found foundThere => ?_) ?_
        · rw [poller?, pollers] at foundThere
          have asked := tracked.polls task (owns.poller task holds) found foundThere
          rw [← owns.ticket, has] at asked
          exact (Option.some.inj asked).symm
        · rw [isPolling_of_there now, isPolling_of_there there]
          unfold poller?
          rw [pollers]
      · rw [free] at holds
        contradiction
  | starts free _ now pollers =>
      have fresh : after.poller? before.pollers.length =
          some ⟨{ ticket := ticket.id, interval := opened.prompt.interval }, .prompt⟩ := by
        rw [poller?, pollers, List.getElem?_concat_length]
        rfl
      refine .started there free now fresh ?_
      rw [isPolling_of_there now]
      simp only [Option.bind_some, fresh]
      rfl

theorem decides_of_known {opened : OpenPrompt} (there : before.prompt? number = some opened)
    (idle : opened.call = .idle) {ticket : Ticket} (has : opened.prompt.ticket = some ticket) :
    before.returned? (.prompt number .start) = some (.ticket (.ok ticket)) ∧
      Decides before number opened.prompt ticket (before.step (.prompt number .start)) := by
  cases prompted_step there .start with
  | decides _ _ known returned decides =>
      obtain rfl := Option.some.inj (has.symm.trans known)
      exact ⟨returned, decides⟩
  | ignores returned =>
      rw [returned?_prompt there] at returned
      simp [promptReturned?, idle, has] at returned
  | asks _ _ _ without =>
      rw [has] at without
      contradiction
  | tells _ called => contradiction
  | fails _ called => contradiction
  | brings _ called => contradiction
  | bringsAndDecides _ called => contradiction
  | gives _ called => contradiction
  | takes _ called => contradiction
  | releases _ called => contradiction
  | closes _ called => rcases called with called | called <;> contradiction

theorem decides_of_brought {opened : OpenPrompt} (there : before.prompt? number = some opened)
    (fetching : opened.call = .fetching true) {answer : Answer} {ticket : Ticket}
    (heard : before.ticketHeard answer = .ok ticket) :
    before.returned? (.prompt number (.receive answer)) = some (.ticket (.ok ticket)) ∧
      Decides before number { opened.prompt with ticket := some ticket } ticket
        (before.step (.prompt number (.receive answer))) := by
  cases answered_step there fetching answer with
  | fails failed =>
      rw [heard] at failed
      contradiction
  | brings came returned decides =>
      obtain rfl := Except.ok.inj (heard.symm.trans came)
      exact ⟨returned, decides rfl⟩

theorem startLeaves_of_startReturns (tracked : Tracked number brought started before)
    (anonymous : before.controller.session = .anonymous) {ticket : Ticket} {action : PromptAction}
    (returns : before.StartReturns number ticket action) :
    before.returned? (.prompt number action) = some (.ticket (.ok ticket)) ∧
      StartLeaves before number ticket (before.step (.prompt number action)) := by
  cases returns with
  | @known opened there idle has =>
      obtain ⟨returned, decides⟩ := decides_of_known there idle has
      have same : { opened.prompt with ticket := some ticket } = opened.prompt := by rw [← has]
      rw [← same] at decides
      exact ⟨returned, startLeaves_of_decides tracked there anonymous (.inl ⟨idle, has⟩) decides⟩
  | @brought opened answer there fetching heard =>
      obtain ⟨returned, decides⟩ := decides_of_brought there fetching heard
      have free := tracked.poller_of_fetching there fetching
      exact ⟨returned, startLeaves_of_decides tracked there anonymous (.inr free) decides⟩

end Start

/-- In every run a call to start that returns while nobody is signed in leaves the prompt with a
poller for its ticket: with a new one if the prompt held none, and otherwise with the one that it
held.  So it polls afterwards if and only if it held none or had a poller that was still at
work. -/
theorem start_looks_at_what_is_held (system : System) (interval : Nat) (events : List Event) :
    let number := system.prompts.length
    let now := (system.step (.openPrompt interval)).run events
    ∀ action ticket, now.StartReturns number ticket action →
      now.controller.session = .anonymous →
      now.returned? (.prompt number action) = some (.ticket (.ok ticket)) ∧
        StartLeaves now number ticket (now.step (.prompt number action)) ∧
        ((now.step (.prompt number action)).isPolling number = true ↔
          (∃ opened, now.prompt? number = some opened ∧ opened.prompt.poller = none) ∨
            now.isPolling number = true) := by
  intro number now action ticket returns anonymous
  have tracked := (tracked_run (tracked_openPrompt system interval) events).1
  obtain ⟨returned, leaves⟩ := startLeaves_of_startReturns tracked anonymous returns
  refine ⟨returned, leaves, ?_⟩
  cases leaves with
  | started there free _ _ polls =>
      constructor
      · exact fun _ => .inl ⟨_, there, free⟩
      · exact fun _ => polls
  | held there holds _ _ _ polls =>
      rw [polls]
      constructor
      · exact .inr
      · rintro (⟨found, same, free⟩ | polling)
        · obtain rfl := Option.some.inj (there.symm.trans same)
          rw [holds] at free
          contradiction
        · exact polling

def failedPoll (number : Nat) : List Event :=
  [.prompt number .start, .prompt number (.receive (.ticketOf "t")), .poll 0 .begin, .poll 0 .ask,
    .poll 0 (.receive (.received ⟨.notFound, { octets := [] }⟩))]

/-- A prompt whose poller has failed and has been waited for polls again when it is started. -/
theorem start_after_a_wait_polls :
    let system := start (.ofBase "http://localhost") (.memory .empty) {}
    let number := system.prompts.length
    let now := (system.step (.openPrompt 1000)).run
      (failedPoll number ++ [.prompt number .wait, .prompt number .leave])
    now.isPolling number = false ∧ now.StartReturns number ⟨"t", "https://e.test/t"⟩ .start ∧
      now.controller.session = .anonymous ∧
      (now.step (.prompt number .start)).isPolling number = true := by
  intro system number now
  let opened : OpenPrompt :=
    { prompt := { interval := 1000, ticket := some ⟨"t", "https://e.test/t"⟩ } }
  have there : now.prompt? number = some opened := by decide +kernel
  have returns : now.StartReturns number ⟨"t", "https://e.test/t"⟩ .start := .known there rfl rfl
  have decided := start_looks_at_what_is_held system 1000
    (failedPoll number ++ [.prompt number .wait, .prompt number .leave]) .start
    ⟨"t", "https://e.test/t"⟩
  have polls := (decided returns (by decide +kernel)).2.2
  exact ⟨by decide +kernel, returns, by decide +kernel, polls.mpr (.inl ⟨opened, there, rfl⟩)⟩

/-- It is not the case that a prompt always polls when it has been started: when its poller has
failed on its own, the prompt still holds it, and to start again changes nothing. -/
theorem not_forall_start_polls :
    ¬ ∀ (client : Client) (store : Backing) (later : Refusal) (interval : Nat)
        (before events : List Event) (action : PromptAction) (ticket : Ticket),
      let system := (start client store later).run before
      let number := system.prompts.length
      let now := (system.step (.openPrompt interval)).run events
      now.StartReturns number ticket action → now.controller.session = .anonymous →
        ∃ opened task found, (now.step (.prompt number action)).prompt? number = some opened ∧
          opened.prompt.poller = some task ∧
          (now.step (.prompt number action)).poller? task = some found ∧
          found.poller.ticket = ticket.id ∧ found.poller.result? = none := by
  intro polls
  let system := (start (.ofBase "http://localhost") (.memory .empty) {}).run []
  let number := system.prompts.length
  let now := (system.step (.openPrompt 1000)).run (failedPoll number)
  let opened : OpenPrompt :=
    { prompt := { interval := 1000, ticket := some ⟨"t", "https://e.test/t"⟩, poller := some 0 } }
  have there : now.prompt? number = some opened := by decide +kernel
  have promised := polls (.ofBase "http://localhost") (.memory .empty) {} 1000 []
    (failedPoll number) .start ⟨"t", "https://e.test/t"⟩
  obtain ⟨left, task, found, leftThere, holds, foundThere, _, working⟩ :=
    promised (.known there rfl rfl) (by decide +kernel)
  have leftNow : (now.step (.prompt number .start)).prompt? number = some opened := by
    decide +kernel
  have ended : ∀ found, (now.step (.prompt number .start)).poller? 0 = some found →
      found.poller.result? ≠ none := by
    decide +kernel
  obtain rfl := Option.some.inj (leftNow.symm.trans leftThere)
  obtain rfl := Option.some.inj holds
  exact ended found foundThere working

end System

end SignIn
