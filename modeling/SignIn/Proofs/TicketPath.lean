import SignIn.Proofs.MockServer.History
import SignIn.Proofs.MockServer.Requests
import SignIn.Proofs.Web.Segment

/-!
# Where a poll goes

A poll puts the name of its ticket into a path as it is.  It goes to the place of this ticket
exactly if the name stands for itself; then no other name that does leads there, and a mock
server takes the poll for a question about this ticket, but for the one name at whose place it
checks bearers.  Any other name is cut off, leads to the place of another ticket or to another
place altogether.
-/

namespace SignIn

open Url Utf8

/-- A name that is one segment as it stands is told from a path in which it is escaped. -/
theorem MockServer.asked?_of_standsForItself {url : Url} {id : String}
    (stands : StandsForItself id) (nonempty : id ≠ "") (query : url.query = none)
    (segments : url.segments = ["auth", escape pathSpecial id.toList]) :
    asked? "GET" url.target = if id = "check" then none else some id := by
  have decoded := stands.decode
  have solid : ∀ segment ∈ url.segments, '/' ∉ segment.toList ∧ '?' ∉ segment.toList := by
    intro segment member
    rw [segments] at member
    simp only [List.mem_cons, List.not_mem_nil, or_false] at member
    rcases member with rfl | rfl
    · decide
    · exact ⟨not_mem_escape (by decide) (by decide) fun slash => stands.solid '/' slash (by decide),
        not_mem_escape (by decide) (by decide) fun mark => stands.solid '?' mark (by decide)⟩
  have parts := segments_of_path (toList_target query) solid
  rw [segments] at parts
  have unchanged : id = "check" → escape pathSpecial id.toList = "check" := by
    rintro rfl
    decide +kernel
  generalize escape pathSpecial id.toList = segment at decoded parts unchanged
  have nameOf : unescape? segment = some id := by
    rw [unescape?, decoded, decode?_encode]
  by_cases check : segment = "check"
  · subst check
    obtain rfl : id = "check" := encode_inj (decoded.symm.trans (by decide +kernel))
    have routed : route? url.target = some .check := by
      rw [route?, parts]
      rfl
    rw [asked?, resource?, routed]
    rfl
  · have other : id ≠ "check" := fun same => check (unchanged same)
    have someSegment : segment ≠ "" := by
      rintro rfl
      exact nonempty (encode_inj decoded.symm)
    have routed : route? url.target = some (.ticket segment) := by
      rw [route?, parts]
      simp only [if_neg someSegment]
    rw [asked?, resource?, routed, if_neg other]
    exact nameOf

namespace Client

variable {client : Client} {root : Url}

theorem pollRequest?_behind_root (parsed : Url.parse? (client.url "") = some root)
    (isRoot : root.IsRoot) (id : String) :
    client.pollRequest? id = some
      { method := "GET"
        url := root.extend (Url.tail ("auth" ++ "/" ++ id).toList)
        credentials := [] } := by
  rw [url_root] at parsed
  have written : Trim.leading (· = '/') ("/auth/" ++ id) = "auth" ++ "/" ++ id := by
    rw [← String.toList_inj]
    simp [Trim.leading]
  have address : Url.parse? (client.url ("/auth/" ++ id)) =
      some (root.extend (Url.tail ("auth" ++ "/" ++ id).toList)) := by
    rw [url, written, parse?_behind_root parsed isRoot]
  obtain ⟨-, username, password, -⟩ := root.extend_server (Url.tail ("auth" ++ "/" ++ id).toList)
  have without := takeUser_of_empty (username.trans isRoot.username)
    (password.trans isRoot.password)
  generalize root.extend (Url.tail ("auth" ++ "/" ++ id).toList) = place at address without
  unfold pollRequest? get? call? request?
  rw [address]
  simp only [Option.bind_eq_bind, Option.bind_some, without]
  rfl

/-- The request of a poll under the root of a server with plain or secure addresses: to the
server, without a credential, and to the place of its ticket exactly if the name of the ticket
stands for itself.  A mock server then takes it for a question about this ticket, unless the
ticket is called as the check of bearers is, and tickets whose names stand for themselves are
asked about at places of their own. -/
theorem poll_goes_to_its_ticket (parsed : Url.parse? (client.url "") = some root)
    (isRoot : root.IsRoot) (special : isSpecial root.scheme = true) :
    (∀ id, ∃ request, client.pollRequest? id = some request ∧
      request.method = "GET" ∧ request.credentials = [] ∧
      request.url.host = root.host ∧ request.url.port = root.port ∧
      (request.url.LeadsTo "auth" id ↔ StandsForItself id) ∧
      (StandsForItself id → id ≠ "" →
        MockServer.asked? "GET" request.url.target = if id = "check" then none else some id)) ∧
    ∀ id other request another, StandsForItself id → StandsForItself other →
      client.pollRequest? id = some request → client.pollRequest? other = some another →
      request.url.target = another.url.target → id = other := by
  have word : isPlainSegment "auth" = true := by decide
  refine ⟨fun id => ?_, fun id other request another stands standsOther built builtOther same => ?_⟩
  · obtain ⟨-, -, -, host, port⟩ := root.extend_server (Url.tail ("auth" ++ "/" ++ id).toList)
    refine ⟨_, pollRequest?_behind_root parsed isRoot id, rfl, rfl, host, port,
      leadsTo_extend_iff special word id, fun stands nonempty => ?_⟩
    obtain ⟨query, segments⟩ := stands.segments special word
    exact MockServer.asked?_of_standsForItself stands nonempty query segments
  · obtain rfl := Option.some.inj ((pollRequest?_behind_root parsed isRoot id).symm.trans built)
    obtain rfl := Option.some.inj
      ((pollRequest?_behind_root parsed isRoot other).symm.trans builtOther)
    have place {text : String} (stands : StandsForItself text) :
        (root.extend (Url.tail ("auth" ++ "/" ++ text).toList)).target.toList =
          "/auth/".toList ++ (escape pathSpecial text.toList).toList := by
      obtain ⟨query, segments⟩ := stands.segments special word
      rw [toList_target query, segments]
      simp [join, List.intercalate]
    have texts := congrArg String.toList same
    rw [place stands, place standsOther, List.append_cancel_left_eq, String.toList_inj] at texts
    exact stands.eq_of_escape standsOther texts

/-- A name beyond ASCII with a percent sign that begins no escape. -/
theorem poll_goes_to_percent_ticket :
    let client := ofBase "http://localhost:8080"
    ∃ request, client.pollRequest? "é%2" = some request ∧ request.credentials = [] ∧
      request.url.LeadsTo "auth" "é%2" ∧
      MockServer.asked? "GET" request.url.target = some "é%2" ∧
      ∀ id another, StandsForItself id → client.pollRequest? id = some another →
        another.url.target = request.url.target → id = "é%2" := by
  intro client
  let root : Url := ⟨"http", "", none, .name "localhost", some 8080, [""], none, none⟩
  have parsed : Url.parse? (client.url "") = some root := by decide +kernel
  have isRoot : root.IsRoot := ⟨rfl, rfl, rfl, rfl, rfl⟩
  obtain ⟨goes, apart⟩ := poll_goes_to_its_ticket parsed isRoot (by decide)
  have stands : StandsForItself "é%2" :=
    ⟨by simp, by simp, Percent.decode_eq_self_iff.mp (by decide +kernel), by decide, by decide⟩
  obtain ⟨request, built, -, nobody, -, -, leads_iff, asked⟩ := goes "é%2"
  exact ⟨request, built, nobody, leads_iff.mpr stands, asked stands (by decide),
    fun id another standsAlso builtAlso same =>
      apart id "é%2" another request standsAlso stands builtAlso built same⟩

/-- Not every name leads to a ticket: one leads to the account of a bearer, and one to another
ticket. -/
theorem not_forall_poll_goes_to_its_ticket :
    let client := ofBase "http://localhost:8080"
    (¬ ∀ id request, id ≠ "" → client.pollRequest? id = some request →
      request.url.LeadsTo "auth" id) ∧
    client.pollRequest? "../profile" = client.get? "/profile" none ∧
    (client.pollRequest? "t#1").map (·.url.target) =
      (client.pollRequest? "t").map (·.url.target) := by
  intro client
  let root : Url := ⟨"http", "", none, .name "localhost", some 8080, [""], none, none⟩
  have parsed : Url.parse? (client.url "") = some root := by decide +kernel
  have isRoot : root.IsRoot := ⟨rfl, rfl, rfl, rfl, rfl⟩
  refine ⟨fun leads => ?_, by decide +kernel, by decide +kernel⟩
  have built := pollRequest?_behind_root parsed isRoot "../profile"
  have special : isSpecial root.scheme = true := by decide
  have word : isPlainSegment "auth" = true := by decide
  have stands := (leadsTo_extend_iff special word "../profile").mp
    (leads "../profile" _ (by decide) built)
  exact stands.solid '/' (by decide) (by decide)

end Client

end SignIn
