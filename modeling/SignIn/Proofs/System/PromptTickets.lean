import SignIn.Proofs.System.Prompts
import Mathlib.Data.List.Induction

/-!
# One ticket for a prompt

A prompt asks for a ticket with each call until one of them brings a ticket, and never again.
That ticket is what every later call returns, and what all pollers of the prompt ask about; of
these pollers at most one can still log in, for the prompt holds it, or the call that waits for
its end does, and whoever lets go of a poller cancels it.
-/

namespace SignIn

namespace OpenPrompt

/-- A prompt holds a poller, or its call that waits for the end of the poller does. -/
def Holds (opened : OpenPrompt) (task : Nat) : Prop :=
  opened.prompt.poller = some task ∨ opened.call = .waiting task

/-- What a prompt has and holds when its calls have brought this ticket, if any, and have
started these pollers. -/
structure Owns (opened : OpenPrompt) (brought : Option Ticket) (started : List Nat) : Prop where
  ticket : opened.prompt.ticket = brought
  fetching : ∀ starts, opened.call = .fetching starts → brought = none
  poller : ∀ task, opened.prompt.poller = some task → task ∈ started
  waiting : ∀ task, opened.call = .waiting task → opened.prompt.poller = none

theorem Owns.unique {opened : OpenPrompt} {brought : Option Ticket} {started : List Nat}
    (owns : opened.Owns brought started) {first second : Nat} (holdsFirst : opened.Holds first)
    (holdsSecond : opened.Holds second) : first = second := by
  have exclusive {held waited : Nat} (held : opened.prompt.poller = some held)
      (waits : opened.call = .waiting waited) : False := by
    rw [owns.waiting waited waits] at held
    contradiction
  rcases holdsFirst with held | waits <;> rcases holdsSecond with heldToo | waitsToo
  · exact Option.some.inj (held.symm.trans heldToo)
  · exact (exclusive held waitsToo).elim
  · exact (exclusive heldToo waits).elim
  · exact PromptCall.waiting.inj (waits.symm.trans waitsToo)

theorem owns_of_idle {opened : OpenPrompt} {brought : Option Ticket} {started : List Nat}
    (idle : opened.call = .idle) (ticket : opened.prompt.ticket = brought)
    (poller : ∀ task, opened.prompt.poller = some task → task ∈ started) :
    opened.Owns brought started where
  ticket := ticket
  fetching starts fetching := by
    rw [idle] at fetching
    contradiction
  poller := poller
  waiting task waits := by
    rw [idle] at waits
    contradiction

end OpenPrompt

namespace System

def ofPrompt {α : Type} (number : Nat) (observe : System → PromptAction → List α)
    (system : System) : Event → List α
  | .prompt other action => if other = number then observe system action else []
  | _ => []

theorem ofPrompt_self {α : Type} (number : Nat) (observe : System → PromptAction → List α)
    (system : System) (action : PromptAction) :
    ofPrompt number observe system (.prompt number action) = observe system action :=
  if_pos rfl

theorem ofPrompt_of_other {α : Type} {number : Nat} {event : Event}
    (other : ∀ action, event ≠ .prompt number action)
    (observe : System → PromptAction → List α) (system : System) :
    ofPrompt number observe system event = [] := by
  cases event with
  | prompt found action =>
      refine if_neg ?_
      rintro rfl
      exact other action rfl
  | _ => rfl

def ticketsReturned (number : Nat) (system : System) (action : PromptAction) : List Ticket :=
  match system.returned? (.prompt number action) with
  | some (.ticket (.ok ticket)) => [ticket]
  | _ => []

def pollersStarted (number : Nat) (system : System) (action : PromptAction) : List Nat :=
  List.range' system.pollers.length
    ((system.step (.prompt number action)).pollers.length - system.pollers.length)

/-- The poller of a number has neither ended nor been cancelled. -/
def Live (system : System) (number : Nat) : Prop :=
  ∃ task, system.poller? number = some task ∧ task.poller.cancelled = false ∧
    ∀ result, task.poller.phase ≠ .ended result

/-- Some run leads to where the poller of a number is free to log in. -/
def CanLogIn (system : System) (number : Nat) : Prop :=
  ∃ later, Nonempty ((system.run later).Free number)

section Live

variable {system after : System} {number : Nat}

theorem Live.of_follow {locks : Bool} (live : after.Live number)
    (small : number < system.pollers.length)
    (follow : Follow locks system.pollers after.pollers) : system.Live number := by
  obtain ⟨task, there, uncancelled, unended⟩ := live
  obtain ⟨earlier, found, moves⟩ := follow.exists_before small there
  refine ⟨earlier, found, ?_, fun result ended => unended result (moves.ended ended)⟩
  cases cancelled : earlier.poller.cancelled with
  | false => rfl
  | true =>
      rw [moves.cancelled cancelled] at uncancelled
      contradiction

theorem CanLogIn.live (can : system.CanLogIn number) (small : number < system.pollers.length) :
    system.Live number := by
  obtain ⟨later, ⟨free⟩⟩ := can
  induction later generalizing system with
  | nil =>
      refine ⟨free.task, free.there, free.uncancelled, fun result ended => ?_⟩
      have committing := free.committing
      rw [ended] at committing
      contradiction
  | cons event later ih =>
      have follow := system.follow_step event
      exact (ih (Nat.lt_of_lt_of_le small follow.length) free).of_follow small follow

theorem Live.of_release {task : Nat} (live : (system.release task).Live number) :
    number ≠ task ∧ system.Live number := by
  obtain ⟨found, there, uncancelled, unended⟩ := live
  unfold release at there
  cases held : system.poller? task with
  | none =>
      simp only [held] at there
      refine ⟨?_, found, there, uncancelled, unended⟩
      rintro rfl
      rw [held] at there
      contradiction
  | some released =>
      simp only [held] at there
      by_cases same : task = number
      · subst same
        rw [poller?_withPoller (number_lt_of_poller? held)] at there
        obtain rfl := Option.some.inj there
        contradiction
      · rw [poller?_withPoller_ne same] at there
        exact ⟨Ne.symm same, found, there, uncancelled, unended⟩

theorem Live.of_pollers_eq (live : after.Live number) (same : after.pollers = system.pollers) :
    system.Live number := by
  unfold Live poller? at live ⊢
  rwa [same] at live

end Live

/-- What holds of a prompt in a run in which its calls have brought this ticket, if any, and
have started these pollers.  Its pollers ask about that ticket, and those that are live are in
its hands. -/
structure Tracked (number : Nat) (brought : Option Ticket) (started : List Nat) (now : System) :
    Prop where
  small : number < now.prompts.length
  unstarted : brought = none → started = []
  numbered : ∀ task ∈ started, task < now.pollers.length
  polls : ∀ task ∈ started, ∀ found, now.poller? task = some found →
    brought.map Ticket.id = some found.poller.ticket
  owns : ∀ opened, now.prompt? number = some opened → opened.Owns brought started
  held : ∀ task ∈ started, now.Live task →
    ∃ opened, now.prompt? number = some opened ∧ opened.Holds task

section Tracked

variable {number : Nat} {brought : Option Ticket} {started : List Nat} {now after : System}

theorem Tracked.move (tracked : Tracked number brought started now) {locks : Bool}
    (follow : Follow locks now.pollers after.pollers) (small : number < after.prompts.length)
    (owns : ∀ opened, after.prompt? number = some opened → opened.Owns brought started)
    (held : ∀ task ∈ started, now.Live task → after.Live task →
      ∃ opened, after.prompt? number = some opened ∧ opened.Holds task) :
    Tracked number brought started after where
  small := small
  unstarted := tracked.unstarted
  numbered task member := Nat.lt_of_lt_of_le (tracked.numbered task member) follow.length
  polls task member found there := by
    obtain ⟨earlier, before, moves⟩ := follow.exists_before (tracked.numbered task member) there
    rw [tracked.polls task member earlier before, moves.ticket]
  owns := owns
  held task member live :=
    held task member (live.of_follow (tracked.numbered task member) follow) live

/-- Other events leave the prompt alone or end everything. -/
theorem tracked_of_other (tracked : Tracked number brought started now) {event : Event}
    (other : ∀ action, event ≠ .prompt number action) :
    Tracked number brought started (now.step event) := by
  have follow := now.follow_step event
  cases now.remains_step tracked.small other with
  | stays small same =>
      refine tracked.move follow small (fun opened there => ?_) fun task member live _ => ?_
      · rw [same] at there
        exact tracked.owns opened there
      · rw [same]
        exact tracked.held task member live
  | gone small absent nothing =>
      refine tracked.move follow small (fun opened there => ?_) fun task member _ live => ?_
      · rw [absent] at there
        contradiction
      · obtain ⟨found, there, _⟩ := live
        rw [nothing task] at there
        contradiction

theorem Tracked.become (tracked : Tracked number brought started now) {opened : OpenPrompt}
    (there : after.prompt? number = some opened) (pollers : after.pollers = now.pollers)
    (owns : opened.Owns brought started)
    (holds : ∀ task ∈ started, now.Live task → opened.Holds task) :
    Tracked number brought started after := by
  have follow : Follow false now.pollers after.pollers := by
    rw [pollers]
    exact Follow.refl now.pollers
  refine tracked.move follow (number_lt_of_prompt? there) (fun found same => ?_)
    fun task member live _ => ⟨opened, there, holds task member live⟩
  obtain rfl := Option.some.inj (there.symm.trans same)
  exact owns

theorem Tracked.bare (tracked : Tracked number brought started now) (none : brought = none)
    {opened : OpenPrompt} (there : now.prompt? number = some opened) :
    opened.prompt.ticket = .none ∧ opened.prompt.poller = .none := by
  have owns := tracked.owns opened there
  refine ⟨owns.ticket.trans none, ?_⟩
  cases held : opened.prompt.poller with
  | none => rfl
  | some task =>
      have member := owns.poller task held
      rw [tracked.unstarted none] at member
      contradiction

theorem Tracked.poller_of_fetching (tracked : Tracked number brought started now)
    {opened : OpenPrompt} (there : now.prompt? number = some opened) {starts : Bool}
    (fetching : opened.call = .fetching starts) : opened.prompt.poller = none :=
  (tracked.bare ((tracked.owns opened there).fetching starts fetching) there).2

/-- At most one of its pollers can still log in. -/
theorem Tracked.unique (tracked : Tracked number brought started now) {first second : Nat}
    (startedFirst : first ∈ started) (startedSecond : second ∈ started)
    (canFirst : now.CanLogIn first) (canSecond : now.CanLogIn second) : first = second := by
  obtain ⟨prompt, there, holdsFirst⟩ := tracked.held first startedFirst
    (canFirst.live (tracked.numbered first startedFirst))
  obtain ⟨found, thereToo, holdsSecond⟩ := tracked.held second startedSecond
    (canSecond.live (tracked.numbered second startedSecond))
  obtain rfl := Option.some.inj (there.symm.trans thereToo)
  exact (tracked.owns prompt there).unique holdsFirst holdsSecond

theorem pollersStarted_of_length {action : PromptAction}
    (same : (now.step (.prompt number action)).pollers.length = now.pollers.length) :
    pollersStarted number now action = [] := by
  rw [pollersStarted, same, Nat.sub_self]
  rfl

theorem length_release (task : Nat) : (now.release task).pollers.length = now.pollers.length := by
  unfold release
  split
  · rfl
  · exact List.length_set

theorem polls_of_agrees (tracked : Tracked number brought started now) {ticket : Ticket}
    (agrees : brought = none ∨ brought = some ticket) :
    ∀ task ∈ started, ∀ found, now.poller? task = some found →
      some ticket.id = some found.poller.ticket := by
  intro task member found there
  rcases agrees with none | same
  · rw [tracked.unstarted none] at member
    contradiction
  · have asked := tracked.polls task member found there
    rw [same] at asked
    exact asked

theorem tracked_known (tracked : Tracked number brought started now) {prompt : Prompt Nat}
    {ticket : Ticket} (known : prompt.ticket = some ticket)
    (agrees : brought = none ∨ brought = some ticket)
    (owned : ∀ task, prompt.poller = some task → task ∈ started)
    (held : ∀ task ∈ started, now.Live task → prompt.poller = some task)
    (there : after.prompt? number = some { prompt }) (pollers : after.pollers = now.pollers) :
    Tracked number (some ticket) started after := by
  have polls := polls_of_agrees tracked agrees
  refine ⟨number_lt_of_prompt? there, fun none => absurd none (Option.some_ne_none ticket),
    ?_, ?_, ?_, ?_⟩
  · rw [pollers]
    exact tracked.numbered
  · unfold poller? at polls ⊢
    rw [pollers]
    exact polls
  · intro opened same
    obtain rfl := Option.some.inj (there.symm.trans same)
    exact OpenPrompt.owns_of_idle rfl known owned
  · intro task member live
    exact ⟨_, there, .inl (held task member (live.of_pollers_eq pollers))⟩

/-- The prompt decides about polling once it has its ticket. -/
theorem tracked_decides (tracked : Tracked number brought started now) {action : PromptAction}
    {prompt : Prompt Nat} {ticket : Ticket} (known : prompt.ticket = some ticket)
    (agrees : brought = none ∨ brought = some ticket)
    (owned : ∀ task, prompt.poller = some task → task ∈ started)
    (held : ∀ task ∈ started, now.Live task → prompt.poller = some task)
    (decides : Decides now number prompt ticket (now.step (.prompt number action))) :
    Tracked number (some ticket) (started ++ pollersStarted number now action)
      (now.step (.prompt number action)) := by
  have polls := polls_of_agrees tracked agrees
  cases decides with
  | leaves _ there pollers =>
      rw [pollersStarted_of_length (by rw [pollers]), List.append_nil]
      exact tracked_known tracked known agrees owned held there pollers
  | starts free _ there pollers =>
      have one : pollersStarted number now action = [now.pollers.length] := by
        rw [pollersStarted, pollers, List.length_append, Nat.add_sub_cancel_left]
        rfl
      rw [one]
      have earlier {task : Nat} (member : task ∈ started) :
          (now.step (.prompt number action)).poller? task = now.poller? task := by
        rw [poller?, pollers, List.getElem?_append_left (tracked.numbered task member), poller?]
      refine ⟨number_lt_of_prompt? there, fun none => absurd none (Option.some_ne_none ticket),
        ?_, ?_, ?_, ?_⟩
      · intro task member
        rw [pollers, List.length_append]
        rcases List.mem_append.mp member with old | new
        · exact Nat.lt_succ_of_lt (tracked.numbered task old)
        · rw [List.mem_singleton.mp new]
          exact Nat.lt_succ_self _
      · intro task member found there
        rcases List.mem_append.mp member with old | new
        · rw [earlier old] at there
          exact polls task old found there
        · obtain rfl := List.mem_singleton.mp new
          rw [poller?, pollers, List.getElem?_concat_length] at there
          obtain rfl := Option.some.inj there
          rfl
      · intro opened same
        obtain rfl := Option.some.inj (there.symm.trans same)
        refine OpenPrompt.owns_of_idle rfl known fun task holds => ?_
        obtain rfl := Option.some.inj holds
        exact List.mem_append_right started (List.mem_singleton_self _)
      · intro task member live
        rcases List.mem_append.mp member with old | new
        · -- The prompt held no poller, so none of the earlier ones is live.
          have liveBefore : now.Live task := by
            obtain ⟨found, there, rest⟩ := live
            rw [earlier old] at there
            exact ⟨found, there, rest⟩
          have holds := held task old liveBefore
          rw [free] at holds
          contradiction
        · obtain rfl := List.mem_singleton.mp new
          exact ⟨_, there, .inl rfl⟩

theorem ticketsReturned_of_ok {action : PromptAction} {ticket : Ticket}
    (returned : now.returned? (.prompt number action) = some (.ticket (.ok ticket))) :
    ticketsReturned number now action = [ticket] := by
  rw [ticketsReturned, returned]

theorem ticketsReturned_of_none {action : PromptAction}
    (returned : now.returned? (.prompt number action) = none) :
    ticketsReturned number now action = [] := by
  rw [ticketsReturned, returned]

/-- What is kept when something happens to the prompt itself.  A ticket that is returned is the
one that it has from then on. -/
structure Kept (number : Nat) (brought : Option Ticket) (started : List Nat) (now : System)
    (action : PromptAction) : Prop where
  tracked : Tracked number (brought.or (ticketsReturned number now action).head?)
    (started ++ pollersStarted number now action) (now.step (.prompt number action))
  same : ∀ ticket ∈ ticketsReturned number now action,
    brought.or (ticketsReturned number now action).head? = some ticket

theorem kept_of_silent {action : PromptAction}
    (silent : ticketsReturned number now action = [])
    (lengths : (now.step (.prompt number action)).pollers.length = now.pollers.length)
    (next : Tracked number brought started (now.step (.prompt number action))) :
    Kept number brought started now action := by
  constructor
  · rw [silent, pollersStarted_of_length lengths]
    simpa using next
  · simp [silent]

theorem kept_of_told {action : PromptAction} {ticket : Ticket}
    (agrees : brought = none ∨ brought = some ticket)
    (returned : now.returned? (.prompt number action) = some (.ticket (.ok ticket)))
    (next : Tracked number (some ticket) (started ++ pollersStarted number now action)
      (now.step (.prompt number action))) :
    Kept number brought started now action := by
  have told := ticketsReturned_of_ok returned
  have first : brought.or (ticketsReturned number now action).head? = some ticket := by
    rw [told]
    rcases agrees with rfl | rfl <;> rfl
  constructor
  · rw [first]
    exact next
  · intro other member
    rw [told] at member
    rw [first, List.mem_singleton.mp member]

theorem kept_of_release (tracked : Tracked number brought started now) {action : PromptAction}
    {released : Nat} (silent : ticketsReturned number now action = [])
    (pollers : (now.step (.prompt number action)).pollers = (now.release released).pollers)
    (owns : ∀ opened, (now.step (.prompt number action)).prompt? number = some opened →
      opened.Owns brought started)
    (held : ∀ task ∈ started, task ≠ released → now.Live task →
      ∃ opened, (now.step (.prompt number action)).prompt? number = some opened ∧
        opened.Holds task) :
    Kept number brought started now action := by
  have small : number < (now.step (.prompt number action)).prompts.length := by
    rw [step, (now.samePrompts_prompt number action).length]
    exact tracked.small
  have follow : Follow true now.pollers (now.step (.prompt number action)).pollers := by
    rw [pollers]
    exact (now.managed_release released).follow
  refine kept_of_silent silent (by rw [pollers, length_release])
    (tracked.move follow small owns fun task member _ live => ?_)
  obtain ⟨apart, liveBefore⟩ := (live.of_pollers_eq pollers).of_release
  exact held task member apart liveBefore

theorem kept_of_closed (tracked : Tracked number brought started now) {action : PromptAction}
    {opened : OpenPrompt} (silent : ticketsReturned number now action = [])
    (held : ∀ task ∈ started, now.Live task → opened.prompt.poller = some task)
    (gone : (now.step (.prompt number action)).prompt? number = none)
    (pollers : (now.step (.prompt number action)).pollers = match opened.prompt.poller with
      | none => now.pollers
      | some task => (now.release task).pollers) :
    Kept number brought started now action := by
  have owns : ∀ found, (now.step (.prompt number action)).prompt? number = some found →
      found.Owns brought started := by
    intro found same
    rw [gone] at same
    contradiction
  have small : number < (now.step (.prompt number action)).prompts.length := by
    rw [step, (now.samePrompts_prompt number action).length]
    exact tracked.small
  cases holds : opened.prompt.poller with
  | none =>
      rw [holds] at pollers
      have follow : Follow true now.pollers (now.step (.prompt number action)).pollers := by
        rw [pollers]
        exact Follow.refl now.pollers
      refine kept_of_silent silent (by rw [pollers])
        (tracked.move follow small owns fun task member live _ => ?_)
      have found := held task member live
      rw [holds] at found
      contradiction
  | some released =>
      rw [holds] at pollers
      refine kept_of_release tracked silent pollers owns fun task member apart live => ?_
      have found := held task member live
      rw [holds] at found
      exact absurd (Option.some.inj found).symm apart

/-- Whatever happens to an open prompt keeps what holds of it. -/
theorem kept_of_prompted (tracked : Tracked number brought started now) {opened : OpenPrompt}
    (there : now.prompt? number = some opened) {action : PromptAction}
    (prompted : Prompted now number opened action (now.step (.prompt number action))) :
    Kept number brought started now action := by
  have owns := tracked.owns opened there
  have holds : ∀ task ∈ started, now.Live task → opened.Holds task := by
    intro task member live
    obtain ⟨found, same, holdsFound⟩ := tracked.held task member live
    obtain rfl := Option.some.inj (there.symm.trans same)
    exact holdsFound
  have heldIdle (idle : opened.call = .idle) : ∀ task ∈ started, now.Live task →
      opened.prompt.poller = some task := by
    intro task member live
    rcases holds task member live with held | waits
    · exact held
    · rw [idle] at waits
      contradiction
  -- A prompt that asks for a ticket has brought none, hence has started nothing.
  have nothing {starts : Bool} (fetching : opened.call = .fetching starts) :
      brought = none ∧ started = [] :=
    ⟨owns.fetching starts fetching, tracked.unstarted (owns.fetching starts fetching)⟩
  cases prompted with
  | ignores returned same =>
      exact kept_of_silent (ticketsReturned_of_none returned) (by rw [same])
        (by rw [same]; exact tracked)
  | asks starts idle called without returned after pollers =>
      refine kept_of_silent (ticketsReturned_of_none returned) (by rw [pollers])
        (tracked.become after pollers ?_ fun task member live => ?_)
      · exact ⟨owns.ticket, fun _ _ => by rw [← owns.ticket, without], owns.poller, nofun⟩
      · exact .inl (heldIdle idle task member live)
  | @tells ticket idle called known returned same =>
      have has : brought = some ticket := by rw [← owns.ticket, known]
      refine kept_of_told (.inr has) returned ?_
      rw [pollersStarted_of_length (by rw [same]), same, List.append_nil, ← has]
      exact tracked
  | @decides ticket idle called known returned decides =>
      have has : brought = some ticket := by rw [← owns.ticket, known]
      exact kept_of_told (.inr has) returned
        (tracked_decides tracked known (.inr has) owns.poller (heldIdle idle) decides)
  | fails fetching called heard returned after pollers =>
      obtain ⟨none, rfl⟩ := nothing fetching
      refine kept_of_silent (by rw [ticketsReturned, returned]) (by rw [pollers])
        (tracked.become after pollers ?_ (List.forall_mem_nil _))
      exact OpenPrompt.owns_of_idle rfl none.symm owns.poller
  | @brings answer ticket fetching called heard returned after pollers =>
      obtain ⟨none, rfl⟩ := nothing fetching
      have known : Prompt.ticket { opened.prompt with ticket := some ticket } = some ticket := rfl
      refine kept_of_told (.inl none) returned ?_
      rw [pollersStarted_of_length (by rw [pollers])]
      exact tracked_known tracked known (.inl none) owns.poller (List.forall_mem_nil _)
        after pollers
  | @bringsAndDecides answer ticket fetching called heard returned decides =>
      obtain ⟨none, rfl⟩ := nothing fetching
      have known : Prompt.ticket { opened.prompt with ticket := some ticket } = some ticket := rfl
      exact kept_of_told (.inl none) returned
        (tracked_decides tracked known (.inl none) owns.poller (List.forall_mem_nil _)
          decides)
  | gives fetching called returned after pollers =>
      obtain ⟨none, rfl⟩ := nothing fetching
      refine kept_of_silent (ticketsReturned_of_none returned) (by rw [pollers])
        (tracked.become after pollers ?_ (List.forall_mem_nil _))
      exact OpenPrompt.owns_of_idle rfl owns.ticket owns.poller
  | takes idle called held returned after pollers =>
      refine kept_of_silent (ticketsReturned_of_none returned) (by rw [pollers])
        (tracked.become after pollers ?_ fun task member live => ?_)
      · exact ⟨owns.ticket, nofun, nofun, fun _ _ => rfl⟩
      · have same := heldIdle idle task member live
        rw [held] at same
        exact .inr (by rw [Option.some.inj same])
  | releases waiting called returned after pollers =>
      refine kept_of_release tracked (ticketsReturned_of_none returned) pollers
        (fun found same => ?_) fun task member apart live => ⟨_, after, ?_⟩
      · obtain rfl := Option.some.inj (after.symm.trans same)
        exact OpenPrompt.owns_of_idle rfl owns.ticket owns.poller
      · rcases holds task member live with held | waits
        · exact .inl held
        · rw [waiting] at waits
          exact absurd (PromptCall.waiting.inj waits).symm apart
  | closes idle called returned after pollers =>
      exact kept_of_closed tracked (ticketsReturned_of_none returned) (heldIdle idle) after pollers

theorem kept_step (tracked : Tracked number brought started now) (action : PromptAction) :
    Kept number brought started now action := by
  cases there : now.prompt? number with
  | none =>
      have still : now.step (.prompt number action) = now := by
        simp only [step, prompt, there]
      have silent : ticketsReturned number now action = [] :=
        ticketsReturned_of_none (by simp [returned?, there])
      refine kept_of_silent silent (by rw [still]) ?_
      rw [still]
      exact tracked
  | some opened => exact kept_of_prompted tracked there (prompted_step there action)

theorem tracked_openPrompt (system : System) (interval : Nat) :
    Tracked system.prompts.length none [] (system.step (.openPrompt interval)) := by
  have grown : (system.step (.openPrompt interval)).prompts =
      system.prompts ++ [some { prompt := { interval } }] := rfl
  refine ⟨?_, fun _ => rfl, List.forall_mem_nil _, List.forall_mem_nil _,
    fun opened there => ?_, List.forall_mem_nil _⟩
  · rw [grown, List.length_append]
    exact Nat.lt_succ_self _
  · rw [prompt?, grown, List.getElem?_concat_length] at there
    obtain rfl := Option.some.inj there
    exact OpenPrompt.owns_of_idle rfl rfl fun task held =>
      absurd held (Option.some_ne_none task).symm

/-- In any run the tickets that a prompt has returned are all the same, and it keeps to the
first one. -/
theorem tracked_run {opened : System} (begun : Tracked number none [] opened)
    (events : List Event) :
    Tracked number (opened.gather (ofPrompt number (ticketsReturned number)) events).head?
        (opened.gather (ofPrompt number (pollersStarted number)) events) (opened.run events) ∧
      ∀ ticket ∈ opened.gather (ofPrompt number (ticketsReturned number)) events,
        (opened.gather (ofPrompt number (ticketsReturned number)) events).head? = some ticket := by
  induction events using List.reverseRecOn with
  | nil => exact ⟨begun, List.forall_mem_nil _⟩
  | append_singleton events event ih =>
      obtain ⟨tracked, same⟩ := ih
      rw [gather_concat, gather_concat, run_append, List.head?_append]
      have next : (opened.run events).run [event] = (opened.run events).step event := rfl
      rw [next]
      by_cases own : ∃ action, event = .prompt number action
      · obtain ⟨action, rfl⟩ := own
        rw [ofPrompt_self, ofPrompt_self]
        have kept := kept_step tracked action
        refine ⟨kept.tracked, fun ticket member => ?_⟩
        rcases List.mem_append.mp member with old | new
        · rw [same ticket old]
          rfl
        · exact kept.same ticket new
      · have other : ∀ action, event ≠ .prompt number action := fun action found =>
          own ⟨action, found⟩
        rw [ofPrompt_of_other other, ofPrompt_of_other other, List.append_nil, List.append_nil]
        exact ⟨by simpa using tracked_of_other tracked other, by simpa using same⟩

end Tracked

/-- An idle prompt is called for its ticket, be it to start polling or not. -/
inductive Calls (system : System) (number : Nat) (action : PromptAction) : Prop where
  | intro {opened : OpenPrompt} (there : system.prompt? number = some opened)
      (idle : opened.call = .idle) (called : action = .ticket ∨ action = .start)

section Calls

variable {number : Nat} {brought : Option Ticket} {started : List Nat} {now : System}
  {action : PromptAction}

theorem returned?_of_calls (tracked : Tracked number brought started now)
    (calls : now.Calls number action) :
    now.returned? (.prompt number action) = brought.map fun ticket => .ticket (.ok ticket) := by
  obtain @⟨opened, there, idle, called⟩ := calls
  rw [returned?_prompt there, ← (tracked.owns opened there).ticket]
  rcases called with rfl | rfl <;> simp [promptReturned?, idle, Function.comp_def]

/-- A prompt without a ticket asks for one with every call. -/
theorem sent_of_calls (tracked : Tracked number brought started now)
    (calls : now.Calls number action) (without : brought = none) :
    (now.step (.prompt number action)).sent = now.sent ++ now.client.ticketRequest?.toList := by
  obtain ⟨there, idle, called⟩ := calls
  have sends : now.Sends (.prompt number action) .ticket :=
    .ticket there idle ((tracked.owns _ there).ticket.trans without) called
  have spoke := now.spoke_step (.prompt number action)
  rw [purpose?_eq_some_iff.mpr sends, Spoke, Option.bind_some, Client.requestFor?_ticket] at spoke
  exact spoke

/-- It sends nothing else. -/
theorem sent_of_not_calls (tracked : Tracked number brought started now)
    (quiet : ¬ (now.Calls number action ∧ brought = none)) :
    (now.step (.prompt number action)).sent = now.sent := by
  refine sent_step_of_silent fun purpose sends => ?_
  cases sends with
  | ticket there idle without called =>
      refine quiet ⟨⟨there, idle, called⟩, ?_⟩
      rw [← (tracked.owns _ there).ticket, without]

end Calls

/-- What an answer to its request makes of a prompt: the call that waits returns the ticket, or it
fails and the prompt has neither a ticket nor a poller. -/
inductive TicketComes (now : System) (number : Nat) (answer : Answer) : Prop where
  | comes {ticket : Ticket} (heard : now.ticketHeard answer = .ok ticket)
      (returned : now.returned? (.prompt number (.receive answer)) = some (.ticket (.ok ticket)))
  | fails {error : FetchError} {interval : Nat} (heard : now.ticketHeard answer = .error error)
      (returned : now.returned? (.prompt number (.receive answer)) =
        some (.ticket (.error (.begin error))))
      (left : (now.step (.prompt number (.receive answer))).prompt? number =
        some { prompt := { interval } })

theorem ticketComes_of_fetching {number : Nat} {brought : Option Ticket} {started : List Nat}
    {now : System} (tracked : Tracked number brought started now) {opened : OpenPrompt}
    (there : now.prompt? number = some opened) {starts : Bool}
    (fetching : opened.call = .fetching starts) (answer : Answer) :
    TicketComes now number answer := by
  have without := tracked.poller_of_fetching there fetching
  cases answered_step there fetching answer with
  | fails heard returned left =>
      simp only [without] at left
      exact .fails heard returned left
  | brings heard returned _ => exact .comes heard returned

/-- A prompt starts no poller while someone is signed in. -/
theorem length_step_of_authenticated {now : System} {number : Nat}
    (authenticated : now.controller.session ≠ .anonymous) (action : PromptAction) :
    (now.step (.prompt number action)).pollers.length = now.pollers.length := by
  have decided {prompt : Prompt Nat} {ticket : Ticket}
      (decides : Decides now number prompt ticket (now.step (.prompt number action))) :
      (now.step (.prompt number action)).pollers.length = now.pollers.length := by
    cases decides with
    | leaves _ _ pollers => rw [pollers]
    | starts _ anonymous => exact absurd anonymous authenticated
  cases there : now.prompt? number with
  | none => simp only [step, prompt, there]
  | some opened =>
      cases prompted_step there action with
      | ignores _ same => rw [same]
      | asks _ _ _ _ _ _ pollers => rw [pollers]
      | tells _ _ _ _ same => rw [same]
      | decides _ _ _ _ decides => exact decided decides
      | fails _ _ _ _ _ pollers => rw [pollers]
      | brings _ _ _ _ _ pollers => rw [pollers]
      | bringsAndDecides _ _ _ _ decides => exact decided decides
      | gives _ _ _ _ pollers => rw [pollers]
      | takes _ _ _ _ _ pollers => rw [pollers]
      | releases _ _ _ _ pollers => rw [pollers, length_release]
      | closes _ _ _ _ pollers =>
          rw [pollers]
          cases opened.prompt.poller with
          | none => rfl
          | some task => exact length_release task

/-- In every run a prompt asks for a ticket with each call until one of its calls has returned
one, and for nothing else; all its calls then return that ticket, and all its pollers ask about
it.  A call that fails leaves it with nothing.  Of its pollers at most one can still log in, and
none is started while someone is signed in. -/
theorem prompt_keeps_to_one_ticket (system : System) (interval : Nat) (events : List Event) :
    let number := system.prompts.length
    let opened := system.step (.openPrompt interval)
    let now := opened.run events
    let tickets := opened.gather (ofPrompt number (ticketsReturned number)) events
    let started := opened.gather (ofPrompt number (pollersStarted number)) events
    (∀ action, now.Calls number action →
        (tickets = [] ∧ now.returned? (.prompt number action) = none ∧
          (now.step (.prompt number action)).sent =
            now.sent ++ system.client.ticketRequest?.toList) ∨
        ∃ ticket, tickets.head? = some ticket ∧
          now.returned? (.prompt number action) = some (.ticket (.ok ticket)) ∧
          (now.step (.prompt number action)).sent = now.sent) ∧
      (∀ action, ¬ now.Calls number action →
        (now.step (.prompt number action)).sent = now.sent) ∧
      (∀ ticket ∈ tickets, tickets.head? = some ticket) ∧
      (∀ prompt starts answer, now.prompt? number = some prompt →
        prompt.call = .fetching starts → TicketComes now number answer) ∧
      (tickets = [] → started = [] ∧ ∀ prompt, now.prompt? number = some prompt →
        prompt.prompt.ticket = none ∧ prompt.prompt.poller = none) ∧
      (∀ task ∈ started, ∀ found, now.poller? task = some found →
        tickets.head?.map Ticket.id = some found.poller.ticket) ∧
      (∀ first ∈ started, ∀ second ∈ started, now.CanLogIn first → now.CanLogIn second →
        first = second) ∧
      (∀ action, now.controller.session ≠ .anonymous →
        (now.step (.prompt number action)).pollers.length = now.pollers.length) ∧
      ((Url.parse? (system.client.url "")).isSome = true → ∃ request,
        system.client.ticketRequest? = some request ∧
          system.client.Builds "GET" "/auth" none "" (some request)) := by
  intro number opened now tickets started
  obtain ⟨tracked, same⟩ := tracked_run (tracked_openPrompt system interval) events
  have clients : now.client = system.client := client_run opened events
  refine ⟨fun action calls => ?_, fun action quiet => ?_, same,
    fun prompt starts answer there fetching =>
      ticketComes_of_fetching tracked there fetching answer,
    fun none => ?_, tracked.polls, ?_, fun action authenticated =>
      length_step_of_authenticated authenticated action, fun readable => ?_⟩
  · have returned := returned?_of_calls tracked calls
    cases first : tickets.head? with
    | none =>
        have sent := sent_of_calls tracked calls first
        rw [clients] at sent
        refine .inl ⟨List.head?_eq_none_iff.mp first, ?_, sent⟩
        rw [returned, first]
        rfl
    | some ticket =>
        refine .inr ⟨ticket, rfl, ?_, sent_of_not_calls tracked fun both => ?_⟩
        · rw [returned, first]
          rfl
        · have without := both.2
          rw [first] at without
          contradiction
  · exact sent_of_not_calls tracked fun both => quiet both.1
  · have first : tickets.head? = Option.none := by rw [none, List.head?_nil]
    exact ⟨tracked.unstarted first, fun prompt there => tracked.bare first there⟩
  · intro first startedFirst second startedSecond canFirst canSecond
    exact tracked.unique startedFirst startedSecond canFirst canSecond
  · exact Client.exists_builds_of_readable readable "/auth"

/-- A prompt whose first call fails, and whose second poller takes the place of the first one:
both ask about the one ticket, and the first one cannot log in any more. -/
theorem prompt_polls_again_for_its_ticket :
    let system := start (.ofBase "http://localhost") (.memory .empty) {}
    let number := system.prompts.length
    let opened := system.step (.openPrompt 1000)
    let events := [PromptAction.ticket, .receive .failed, .start, .receive (.ticketOf "t"), .wait,
      .leave, .start].map (.prompt number)
    let now := opened.run events
    let started := opened.gather (ofPrompt number (pollersStarted number)) events
    opened.gather (ofPrompt number (ticketsReturned number)) events =
        [⟨"t", "https://e.test/t"⟩, ⟨"t", "https://e.test/t"⟩] ∧
      started = [0, 1] ∧ now.sent.length = 2 ∧ now.CanLogIn 1 ∧ ¬ now.CanLogIn 0 := by
  intro system number opened events now started
  obtain ⟨_, _, _, _, _, _, one, _⟩ := prompt_keeps_to_one_ticket system 1000 events
  have numbers : started = [0, 1] := by decide +kernel
  have second : now.CanLogIn 1 := by
    refine ⟨[.poll 1 .begin, .poll 1 .ask, .poll 1 (.receive (.redemptionOf "token")),
      .poll 1 (.receive (.reportOf 0))], ⟨?_⟩⟩
    exact {
      task := ⟨{ ticket := "t", interval := 1000,
                 phase := .committing (Controller.sessionOf "token") }, .prompt⟩
      session := Controller.sessionOf "token"
      there := by decide +kernel
      committing := rfl
      uncancelled := rfl
      anonymous := by decide +kernel }
  refine ⟨by decide +kernel, numbers, by decide +kernel, second, fun first => ?_⟩
  have started : ∀ task ∈ [0, 1], task ∈ started := by
    rw [numbers]
    exact fun task member => member
  exact Nat.zero_ne_one (one 0 (started 0 (by simp)) 1 (started 1 (by simp)) first second)

end System

end SignIn
