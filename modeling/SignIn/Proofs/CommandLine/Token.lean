import SignIn.CommandLine.Run
import SignIn.Proofs.BearerText
import SignIn.Proofs.Credentials
import SignIn.Proofs.MockServer.AutoRedeem
import SignIn.Proofs.Restoration
import SignIn.Proofs.Stage.Call
import SignIn.Proofs.Storage.Refinement
import SignIn.Proofs.System.Requests

/-!
# Signing in with a bearer on the command line

The command asks for the account behind a bearer without padding, whoever is signed in, and
an account that comes is written down with the bearer.  A padded bearer is taken for a link, so
it is never sent: mostly nothing is, and else what is left of the padding.
-/

namespace SignIn

/-- A new controller over a file that is there or can be made leaves such a file. -/
theorem Controller.exists_start_file (client : Client) {path : String} {tree : FileTree}
    (admits : tree.Admits (.ofText path)) :
    ∃ later, (start client (.file path tree)).store = .file path later ∧
      later.Admits (.ofText path) := by
  cases takesUp_start client (.file path tree) with
  | session found entered unwritten => exact ⟨tree, unwritten, admits⟩
  | corrupted found dropped cleared =>
      obtain ⟨later, written, admitted⟩ := Backing.exists_write_of_admits admits
        (Backing.file path tree).kept.withoutSession
      exact ⟨later, by rw [cleared, Backing.clear, written], admitted⟩

namespace Stage

theorem isQuiet_start (client : Client) (store : Backing) (server : Server) (reachable : Bool)
    (freshId : Nat → String) : (start client store server reachable freshId).IsQuiet :=
  ⟨rfl, rfl, rfl⟩

theorem controller_of_only {stage : Stage} {controller : Controller}
    (only : stage.controllers = [controller]) (held : stage.store = controller.store) :
    stage.controller stage.current = controller := by
  simp [Stage.controller, current, only, held]

theorem arrivals_tokenLogin (stage : Stage) (token : String) :
    (stage.tokenLogin token).1.arrivals =
      (stage.call (stage.client.accountRequest? token)).1.arrivals := by
  unfold tokenLogin
  generalize stage.call (stage.client.accountRequest? token) = called
  rfl

theorem tokenLoginFromLink_of_unused {stage : Stage} {input : String}
    (unused : (stage.controller stage.current).tokenToUse? input = none) :
    stage.tokenLoginFromLink input = (stage, .ok false) := by
  unfold tokenLoginFromLink
  rw [unused]

theorem arrivals_tokenLoginFromLink (stage : Stage) (input : String) :
    (stage.tokenLoginFromLink input).1.arrivals = stage.arrivals ∨
      ∃ token request during, TokenLink.token? input = some token ∧
        stage.client.accountRequest? token = some request ∧
        (stage.tokenLoginFromLink input).1.arrivals =
          stage.arrivals ++ [⟨request, during⟩] := by
  unfold tokenLoginFromLink
  cases used : (stage.controller stage.current).tokenToUse? input with
  | none => exact .inl rfl
  | some token =>
      obtain ⟨found, _⟩ := System.tokenToUse?_eq_some_iff.mp used
      simp only [arrivals_tokenLogin]
      rcases stage.arrivals_call (stage.client.accountRequest? token) with
        nothing | ⟨request, during, built, added⟩
      · exact .inl nothing
      · exact .inr ⟨token, request, during, found, built, added⟩

/-- When an account comes for a token, and a session can be saved, the session with that token
is what the store holds. -/
theorem tokenLogin_of_account {stage called : Stage} {token : String} {answer : Answer}
    {account : Account}
    (calls : stage.call (stage.client.accountRequest? token) = (called, answer))
    (came : answer.account = .ok account) {saved : Backing}
    (saves : (called.controller stage.current).store.save
      ⟨token, account.profile, account.reputation⟩ = (saved, .ok ())) :
    (stage.tokenLogin token).2 = .ok () ∧ (stage.tokenLogin token).1.store = saved := by
  have login := Controller.login_of_saved (congrArg Prod.snd saves)
  have finished : (called.controller stage.current).finishTokenLogin token answer.account =
      ((called.controller stage.current).enter ⟨token, account.profile, account.reputation⟩,
        .ok ()) := by
    simp only [Controller.finishTokenLogin, came, login]
  unfold tokenLogin act
  rw [calls]
  simp only [finished]
  exact ⟨trivial, congrArg Prod.fst saves⟩

end Stage

namespace Client

/-- The base of a client is an address of the web, and names no user. -/
structure OnWeb (client : Client) : Prop where
  root : ∃ root, Url.parse? (client.url "") = some root ∧ root.IsUserless ∧
    ["http", "https"].contains root.scheme = true

namespace OnWeb

variable {client : Client}

theorem isUserless (onWeb : client.OnWeb) : client.IsUserless := by
  obtain ⟨root, parsed, userless, _⟩ := onWeb.root
  intro other same
  obtain rfl : root = other := Option.some.inj (parsed.symm.trans same)
  exact userless

theorem exists_accountRequest (onWeb : client.OnWeb) {token : String}
    (printable : isPrintableToken token = true) :
    ∃ request, client.accountRequest? token = some request ∧
      client.AsksFor (.account token) request ∧
      ["http", "https"].contains request.url.scheme = true := by
  obtain ⟨root, rooted, userless, web⟩ := onWeb.root
  obtain ⟨address, parsed⟩ := Option.isSome_iff_exists.mp
    (parse?_url_isSome (Option.isSome_iff_exists.mpr ⟨root, rooted⟩) "/profile")
  have built : client.accountRequest? token = some _ :=
    call?_of_legal parsed (isLegalHeader_of_printable printable) "GET" ""
  have asks : client.AsksFor (.account token) _ := asksFor_of_requestFor? onWeb.isUserless built
  refine ⟨_, built, asks, ?_⟩
  rwa [(sameUser_of_parsed asks.url rooted).1]

end OnWeb

end Client

namespace CommandLine

open Stage

theorem read_token {text : String} (noOption : text.toList.head? ≠ some '-') :
    read ["token", text] = .ok { command := .token text } := by
  have plain : Word.ofText text = .plain := by
    unfold Word.ofText
    split
    · rename_i separator
      simp [separator] at noOption
    · rename_i long
      simp [long] at noOption
    · rename_i short
      simp [short] at noOption
    · rfl
  have verb : Verb.ofName? "token" = some .token := by decide
  have first : read ["token", text] = (do
      let after ← readAfter .token {} [text]
      let before ← Line.close {}
      before.invocation .token after) := by
    simp only [read, readFrom, verb]
    rfl
  have after : readAfter .token {} [text] = .ok { token := some text } := by
    simp only [readAfter, Line.take, plain]
    rfl
  rw [first, after]
  rfl

/-- What is left of a command that has been carried out. -/
def Report.ofEnded (ended : Stage × Ending) : Report where
  code := if ended.2.errors.isEmpty then 0 else 1
  printed := String.join (ended.2.printed.map (· ++ "\n"))
  errors := ended.2.errors
  tree := ended.1.store.tree
  arrivals := ended.1.arrivals

namespace Surroundings

variable (surroundings : Surroundings)

def config : Config :=
  let settings := Config.ofEnvironment surroundings.environment
  .of settings.appUrl settings.sessionFile settings.pollInterval

def client : Client :=
  .ofBase surroundings.config.appUrl

def controller : Controller :=
  .start surroundings.client (.file surroundings.config.sessionFile surroundings.tree)

/-- The stage on which a command begins: nothing has been sent yet and nobody polls. -/
structure Sets (stage : Stage) : Prop where
  client : stage.client = surroundings.client
  server : stage.server = surroundings.server
  reachable : stage.reachable = surroundings.reachable
  unsent : stage.arrivals = []
  quiet : stage.IsQuiet
  controllers : stage.controllers = [surroundings.controller]
  store : stage.store = surroundings.controller.store

theorem exists_run_token {text : String} (noOption : text.toList.head? ≠ some '-') :
    ∃ stage, surroundings.Sets stage ∧
      surroundings.run ["token", text] = .ofEnded (token stage text) := by
  have settings : ({ command := .token text } : Invocation).config surroundings.environment =
      surroundings.config := rfl
  refine ⟨surroundings.stage surroundings.config,
    ⟨rfl, rfl, rfl, rfl, isQuiet_start .., rfl, rfl⟩, ?_⟩
  simp only [run, read_token noOption, settings, Command.run]
  rfl

variable {surroundings} in
theorem Sets.delivers {stage : Stage} (sets : surroundings.Sets stage)
    (reachable : surroundings.reachable = true) {request : Request}
    (web : ["http", "https"].contains request.url.scheme = true) : stage.Delivers request :=
  ⟨by rw [sets.reachable, reachable], web⟩

variable {text : String} {front : List Char} {padding : Nat}

section Unpadded

variable (bearer : IsBearer text front 0)

include bearer

theorem token_of_unpadded (stage : Stage) :
    (token stage text).1 = (stage.tokenLogin text).1 ∧
      ((stage.tokenLogin text).2 = .ok () → (token stage text).2.errors = []) := by
  have raw : ¬ (text.toList.any fun character => character = '?' || character = '=') = true :=
    fun link => absurd (bearer.looksLikeLink_iff.mp link) (Nat.lt_irrefl 0)
  unfold token
  rw [if_neg raw]
  split
  · rename_i failed
    rw [failed]
    exact ⟨rfl, nofun⟩
  · rename_i entered
    rw [entered]
    exact ⟨rfl, fun _ => rfl⟩

/-- A bearer without padding is sent for its account. -/
theorem arrivals_of_unpadded (onWeb : surroundings.client.OnWeb)
    (reachable : surroundings.reachable = true) {replies : List ScriptedReply}
    (script : surroundings.server = .script replies) :
    ∃ request during, (surroundings.run ["token", text]).arrivals = [⟨request, during⟩] ∧
      surroundings.client.AsksFor (.account text) request := by
  obtain ⟨request, built, asks, web⟩ := onWeb.exists_accountRequest bearer.isPrintableToken
  obtain ⟨stage, sets, ended⟩ := surroundings.exists_run_token bearer.head?_ne_hyphen
  obtain ⟨during, arrived⟩ :=
    arrivals_call_of_script (sets.delivers reachable web) (sets.server.trans script)
  refine ⟨request, during, ?_, asks⟩
  rw [ended]
  calc
    (token stage text).1.arrivals = (stage.tokenLogin text).1.arrivals := by
      rw [(token_of_unpadded bearer stage).1]
    _ = (stage.call (some request)).1.arrivals := by
      rw [arrivals_tokenLogin, sets.client, built]
    _ = [⟨request, during⟩] := by rw [arrived, sets.unsent, List.nil_append]

theorem holds_of_unpadded (onWeb : surroundings.client.OnWeb)
    (reachable : surroundings.reachable = true) {answer : Answer} {later : List ScriptedReply}
    (script : surroundings.server = .script ({ answer } :: later)) {account : Account}
    (came : (bodiless "GET" answer).account = .ok account)
    (admits : surroundings.tree.Admits (.ofText surroundings.config.sessionFile)) :
    (surroundings.run ["token", text]).code = 0 ∧
      (Backing.file surroundings.config.sessionFile
        (surroundings.run ["token", text]).tree).entries.Holds
          ⟨text, account.profile, account.reputation⟩ := by
  obtain ⟨request, built, asks, web⟩ := onWeb.exists_accountRequest bearer.isPrintableToken
  obtain ⟨stage, sets, ended⟩ := surroundings.exists_run_token bearer.head?_ne_hyphen
  have calls := sets.quiet.call (sets.delivers reachable web) (sets.server.trans script)
  rw [asks.method, ← built, ← sets.client] at calls
  obtain ⟨tree, left, admitted⟩ := Controller.exists_start_file surroundings.client admits
  obtain ⟨last, written, -⟩ := Backing.exists_write_of_admits admitted
    ((Backing.file surroundings.config.sessionFile tree).kept.withSession
      ⟨text, account.profile, account.reputation⟩)
  have saves : surroundings.controller.store.save ⟨text, account.profile, account.reputation⟩ =
      (.file surroundings.config.sessionFile last, .ok ()) := by
    rw [controller, left]
    exact written
  have begun (server : Server) (arrivals : List Arrival) :
      ({ stage with server, arrivals } : Stage).controller stage.current =
        surroundings.controller :=
    controller_of_only sets.controllers sets.store
  rw [← begun] at saves
  obtain ⟨entered, stored⟩ := tokenLogin_of_account calls came saves
  obtain ⟨same, ends⟩ := token_of_unpadded bearer stage
  have code : (Report.ofEnded (token stage text)).code = 0 := by
    rw [Report.ofEnded, ends entered]
    rfl
  have kept : (Report.ofEnded (token stage text)).tree = last := by
    rw [Report.ofEnded, same, stored]
    rfl
  rw [ended, kept]
  exact ⟨code, Backing.holds_save saves⟩

end Unpadded

section Padded

variable (bearer : IsBearer text front (padding + 1))

include bearer

theorem token_of_padded (stage : Stage) :
    (token stage text).1 = (stage.tokenLoginFromLink text).1 ∧
      ((stage.controller stage.current).tokenToUse? text = none → token stage text =
        (stage, if (session stage).isAuthenticated then
            { printed := ["Already signed in; run `logout` first to switch accounts."] }
          else { errors := ["no token parameter found in " ++ text] })) := by
  have link := bearer.looksLikeLink_iff.mpr padding.succ_pos
  constructor
  · unfold token
    rw [if_pos link]
    split
    · rename_i failed
      rw [failed]
    · rename_i entered
      rw [entered]
    · rename_i idle
      rw [idle]
  · intro unused
    unfold token
    rw [if_pos link, tokenLoginFromLink_of_unused unused]

/-- A padded bearer is never sent. -/
theorem not_mem_of_padded {arrival : Arrival}
    (arrived : arrival ∈ (surroundings.run ["token", text]).arrivals) :
    .bearer text ∉ arrival.request.credentials := by
  intro carried
  obtain ⟨stage, sets, ended⟩ := surroundings.exists_run_token bearer.head?_ne_hyphen
  rw [ended] at arrived
  have arrived : arrival ∈ (token stage text).1.arrivals := arrived
  rw [(token_of_padded bearer stage).1] at arrived
  rcases stage.arrivals_tokenLoginFromLink text with
    nothing | ⟨rest, request, during, found, built, added⟩
  · simp [nothing, sets.unsent] at arrived
  · obtain rfl : arrival = ⟨request, during⟩ := by simpa [added, sets.unsent] using arrived
    obtain rfl : text = rest := (Option.some.inj (Client.eq_of_bearer_mem built carried)).symm
    exact absurd found bearer.token?_ne_self

/-- Where the front of a padded bearer is not the word for a token, or no padding is left
behind it, nothing is sent and nothing is written. -/
theorem run_of_padded (unnamed : ¬ (front = "token".toList ∧ 0 < padding)) :
    (surroundings.run ["token", text]).arrivals = [] ∧
      (surroundings.run ["token", text]).tree = surroundings.controller.store.tree ∧
      (surroundings.run ["token", text]).errors =
        if surroundings.controller.session.isAuthenticated then []
        else ["no token parameter found in " ++ text] := by
  obtain ⟨stage, sets, ended⟩ := surroundings.exists_run_token bearer.head?_ne_hyphen
  have begun : stage.controller stage.current = surroundings.controller :=
    controller_of_only sets.controllers sets.store
  have missing : TokenLink.token? text = none := by
    rw [bearer.token?_of_padded, if_neg unnamed]
  have unused : (stage.controller stage.current).tokenToUse? text = none :=
    System.tokenToUse?_eq_none_iff.mpr (.inl missing)
  rw [ended, (token_of_padded bearer stage).2 unused, session, begun]
  refine ⟨sets.unsent, congrArg Backing.tree sets.store, ?_⟩
  unfold Report.ofEnded
  simp only
  split
  · rfl
  · rfl

end Padded

/-- The command sends a bearer exactly as it stands if it has no padding, and then an account
that comes is written down with the bearer.  A padded bearer is taken for a link and is never
sent; the program looks for a token in it, and finds none but for what is left of the padding
behind the word for a token. -/
theorem token_of_bearer (bearer : IsBearer text front padding) :
    let report := surroundings.run ["token", text]
    (padding = 0 → surroundings.client.OnWeb → surroundings.reachable = true →
      ∀ replies, surroundings.server = .script replies →
        (∃ request during, report.arrivals = [⟨request, during⟩] ∧
          surroundings.client.AsksFor (.account text) request) ∧
        ∀ answer later account, replies = { answer } :: later →
          (bodiless "GET" answer).account = .ok account →
          surroundings.tree.Admits (.ofText surroundings.config.sessionFile) →
            report.code = 0 ∧
              (Backing.file surroundings.config.sessionFile report.tree).entries.Holds
                ⟨text, account.profile, account.reputation⟩) ∧
    (0 < padding →
      (∀ arrival ∈ report.arrivals, .bearer text ∉ arrival.request.credentials) ∧
      (¬ (front = "token".toList ∧ 1 < padding) →
        report.arrivals = [] ∧ report.tree = surroundings.controller.store.tree ∧
          report.errors = if surroundings.controller.session.isAuthenticated then []
            else ["no token parameter found in " ++ text])) := by
  constructor
  · rintro rfl onWeb reachable replies script
    refine ⟨surroundings.arrivals_of_unpadded bearer onWeb reachable script, ?_⟩
    rintro answer later account rfl came admits
    exact surroundings.holds_of_unpadded bearer onWeb reachable script came admits
  · intro padded
    obtain ⟨fewer, rfl⟩ := Nat.exists_eq_add_of_lt padded
    rw [Nat.zero_add] at bearer
    refine ⟨fun arrival => surroundings.not_mem_of_padded bearer, fun unnamed => ?_⟩
    exact surroundings.run_of_padded bearer fun named => unnamed ⟨named.1, by omega⟩

/-- Surroundings with a server that answers as laid out, and with a session file that holds
no session, nor anything that can be read. -/
def answering (replies : List ScriptedReply) : Surroundings where
  environment := { sessionFile := some "session.json" }
  tree := ({} : FileTree).put ["session.json"] (.file (Utf8.encode "\x7b"))
  server := .script replies
  reachable := true
  freshId _ := "ticket"

theorem onWeb_answering (replies : List ScriptedReply) : (answering replies).client.OnWeb := by
  refine ⟨⟨"http", "", none, .name "localhost", some 8080, [""], none, none⟩, ?_, ⟨rfl, rfl⟩, rfl⟩
  have base : (answering replies).client = ⟨"http://localhost:8080"⟩ := by
    show Client.ofBase (Client.normalize (Client.normalize Config.defaultAppUrl)) = _
    decide +kernel
  rw [base]
  decide +kernel

theorem admits_answering (replies : List ScriptedReply) :
    (answering replies).tree.Admits (.ofText (answering replies).config.sessionFile) := by
  let tree := ({} : FileTree).put ["session.json"] (.file (Utf8.encode "\x7b"))
  have room : tree.hasRoom (.ofText "session.json") = true := by decide +kernel
  have read : tree.read (.ofText "session.json") = .ok (Utf8.encode "\x7b") := by decide +kernel
  exact .inl ⟨room, _, read⟩

/-- A bearer in three parts is sent, and is written over what could not be read. -/
theorem token_of_dotted_bearer :
    let text := "head.body.seal"
    let surroundings := answering
      [{ answer := .ofText MockServer.autoAccount.accountValue.print }]
    IsBearer text text.toList 0 ∧ surroundings.client.OnWeb ∧
      (surroundings.run ["token", text]).code = 0 ∧
      (Backing.file surroundings.config.sessionFile
        (surroundings.run ["token", text]).tree).entries.Holds
          ⟨text, MockServer.autoAccount.profile,
            ⟨MockServer.autoAccount.reputation, MockServer.autoBreakdown⟩⟩ := by
  intro text surroundings
  have bearer : IsBearer text text.toList 0 :=
    ⟨by simp, by decide, List.all_eq_true.mp (by decide), by decide⟩
  have onWeb : surroundings.client.OnWeb := onWeb_answering _
  have came : (bodiless "GET" (.ofText MockServer.autoAccount.accountValue.print)).account =
      .ok ⟨MockServer.autoAccount.profile, MockServer.autoAccount.reputation,
        MockServer.autoBreakdown⟩ := by
    show (Answer.ofText MockServer.autoAccount.accountValue.print).account = _
    rw [Answer.account_ofText,
      MockServer.autoAccount.decode_accountValue MockServer.reads_autoBreakdown]
    rfl
  obtain ⟨sent, -⟩ := token_of_bearer surroundings bearer
  have written := (sent rfl onWeb rfl _ rfl).2 _ _ _ rfl came (admits_answering _)
  exact ⟨bearer, onWeb, written⟩

/-- Not every bearer is sent: a padded one is not, though a server would answer. -/
theorem not_forall_bearer_sent :
    ¬ ∀ text front padding, IsBearer text front padding → ∀ surroundings : Surroundings,
      surroundings.client.OnWeb → surroundings.reachable = true →
      ∀ replies, surroundings.server = .script replies →
        ∃ request during, (surroundings.run ["token", text]).arrivals = [⟨request, during⟩] ∧
          surroundings.client.AsksFor (.account text) request := by
  intro sends
  have bearer : IsBearer "abc=" "abc".toList 1 :=
    ⟨by decide, by decide, List.all_eq_true.mp (by decide), by decide⟩
  obtain ⟨request, during, arrived, asks⟩ :=
    sends "abc=" "abc".toList 1 bearer (answering []) (onWeb_answering []) rfl [] rfl
  have among : (⟨request, during⟩ : Arrival) ∈ ((answering []).run ["token", "abc="]).arrivals := by
    rw [arrived]
    exact List.mem_singleton_self _
  refine (answering []).not_mem_of_padded bearer among ?_
  rw [asks.credentials]
  exact List.mem_singleton_self _

end Surroundings

end CommandLine

end SignIn
