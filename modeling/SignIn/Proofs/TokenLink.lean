import SignIn.Proofs.Text.Form
import SignIn.Proofs.Web.Url
import SignIn.TokenLink

/-!
# Tokens found in links

The token of a link is the value of the first parameter of that name in the query, read off
the link without the blanks around it.  A token that is spelled in form data in any way is
found again behind whatever parameters of other names and in front of whatever follows.
-/

namespace SignIn

namespace TokenLink

open Utf8

/-- A text that is empty or begins with a mark. -/
def Opens (mark : Char) (text : List Char) : Prop :=
  text = [] ∨ ∃ rest, text = mark :: rest

/-- Which part of a text is its query: what follows the first question mark, or all of a text
that has none but assigns something, up to a fragment. -/
inductive HasQuery : List Char → List Char → Prop
  | marked {front query fragment : List Char} (unmarked : '?' ∉ front) (whole : '#' ∉ query)
      (ends : Opens '#' fragment) : HasQuery (front ++ '?' :: (query ++ fragment)) query
  | bare {query fragment : List Char} (unmarked : '?' ∉ query ++ fragment)
      (assigns : '=' ∈ query ++ fragment) (whole : '#' ∉ query) (ends : Opens '#' fragment) :
      HasQuery (query ++ fragment) query

def key (parameter : List Char) : String :=
  (Form.decodePair (encodeChars parameter)).1

def value (parameter : List Char) : String :=
  (Form.decodePair (encodeChars parameter)).2

/-- What the first parameter of a query whose decoded key is `token` is given. -/
inductive FirstToken : List Char → String → Prop
  | here {parameter rest : List Char} (single : '&' ∉ parameter) (ends : Opens '&' rest)
      (named : key parameter = "token") : FirstToken (parameter ++ rest) (value parameter)
  | later {parameter query : List Char} {found : String} (single : '&' ∉ parameter)
      (other : key parameter ≠ "token") (rest : FirstToken query found) :
      FirstToken (parameter ++ '&' :: query) found

def querying (text : List Char) : Option (List Char) :=
  (if text.contains '?' then some ((text.dropWhile (· != '?')).drop 1)
    else if text.contains '=' then some text
    else none).map (List.takeWhile (· != '#'))

theorem query?_eq (input : String) :
    query? input = (querying (Trim.blanks input).toList).map String.ofList := by
  rw [query?, querying, Option.map_map]
  rfl

theorem takeWhile_of_opens {mark : Char} {query fragment : List Char} (whole : mark ∉ query)
    (ends : Opens mark fragment) : (query ++ fragment).takeWhile (· != mark) = query := by
  have kept : ∀ character ∈ query, (character != mark) = true := by
    intro character member
    simp only [bne_iff_ne, ne_eq]
    rintro rfl
    exact whole member
  rw [List.takeWhile_append_of_pos kept]
  rcases ends with rfl | ⟨rest, rfl⟩ <;> simp

theorem dropWhile_of_not_mem {mark : Char} {front : List Char} (unmarked : mark ∉ front)
    (rest : List Char) : (front ++ mark :: rest).dropWhile (· != mark) = mark :: rest := by
  have dropped : ∀ character ∈ front, (character != mark) = true := by
    intro character member
    simp only [bne_iff_ne, ne_eq]
    rintro rfl
    exact unmarked member
  rw [List.dropWhile_append_of_pos dropped]
  simp

/-- Every text is cut at the first of a mark. -/
theorem exists_opens (mark : Char) (text : List Char) :
    ∃ query fragment, text = query ++ fragment ∧ mark ∉ query ∧ Opens mark fragment := by
  by_cases member : mark ∈ text
  · obtain ⟨front, rest, rfl, absent⟩ := List.eq_append_cons_of_mem member
    exact ⟨front, mark :: rest, rfl, absent, .inr ⟨rest, rfl⟩⟩
  · exact ⟨text, [], by simp, member, .inl rfl⟩

theorem querying_of_hasQuery {text query : List Char} (has : HasQuery text query) :
    querying text = some query := by
  cases has with
  | @marked front query fragment unmarked whole ends =>
      have marked : (front ++ '?' :: (query ++ fragment)).contains '?' = true := by simp
      rw [querying, if_pos marked, dropWhile_of_not_mem unmarked]
      exact congrArg some (takeWhile_of_opens whole ends)
  | @bare query fragment unmarked assigns whole ends =>
      rw [querying, if_neg (by simpa using unmarked), if_pos (by simpa using assigns)]
      exact congrArg some (takeWhile_of_opens whole ends)

theorem hasQuery_of_querying {text query : List Char} (found : querying text = some query) :
    HasQuery text query := by
  by_cases marked : '?' ∈ text
  · obtain ⟨front, rest, rfl, unmarked⟩ := List.eq_append_cons_of_mem marked
    obtain ⟨whole, fragment, rfl, absent, ends⟩ := exists_opens '#' rest
    have has := HasQuery.marked unmarked absent ends
    obtain rfl : whole = query := by simpa [querying_of_hasQuery has] using found
    exact has
  · by_cases assigns : '=' ∈ text
    · obtain ⟨whole, fragment, rfl, absent, ends⟩ := exists_opens '#' text
      have has := HasQuery.bare marked assigns absent ends
      obtain rfl : whole = query := by simpa [querying_of_hasQuery has] using found
      exact has
    · simp [querying, marked, assigns] at found

/-- What the first pair named token is given. -/
def firstToken? (query : List Char) : Option String :=
  ((Form.pairs (encodeChars query)).find? (·.1 == "token")).map Prod.snd

theorem not_mem_encodeChars {parameter : List Char} (single : '&' ∉ parameter) :
    0x26 ∉ encodeChars parameter := fun member =>
  single (mem_of_asciiOctet_mem '&' (by decide) member)

theorem find?_piece (piece : Octets) :
    (([piece].filter (· != [])).map Form.decodePair).find? (·.1 == "token") =
      if (Form.decodePair piece).1 = "token" then some (Form.decodePair piece) else none := by
  have empty : (Form.decodePair []).1 = "" := decodeLossy_encode ""
  by_cases nothing : piece = []
  · subst nothing
    rw [empty]
    rfl
  · by_cases named : (Form.decodePair piece).1 = "token" <;> simp [nothing, named]

theorem firstToken?_single {parameter : List Char} (single : '&' ∉ parameter) :
    firstToken? parameter =
      if key parameter = "token" then some (value parameter) else none := by
  rw [firstToken?, Form.pairs, List.splitOn_eq_singleton (not_mem_encodeChars single),
    find?_piece]
  unfold key value
  split <;> rfl

theorem firstToken?_append {parameter : List Char} (single : '&' ∉ parameter)
    (query : List Char) :
    firstToken? (parameter ++ '&' :: query) =
      if key parameter = "token" then some (value parameter) else firstToken? query := by
  have octets : encodeChars (parameter ++ '&' :: query) =
      encodeChars parameter ++ 0x26 :: encodeChars query := by
    simp [@encodeChar_of_lt '&' (by decide)]
  rw [firstToken?, octets, Form.pairs,
    List.splitOn_append_cons_self_of_not_mem (not_mem_encodeChars single),
    ← List.singleton_append, List.filter_append, List.map_append, List.find?_append, find?_piece]
  unfold key value
  split <;> rfl

theorem firstToken?_of_firstToken {query : List Char} {found : String}
    (first : FirstToken query found) : firstToken? query = some found := by
  induction first with
  | @here parameter rest single ends named =>
      rcases ends with rfl | ⟨others, rfl⟩
      · rw [List.append_nil, firstToken?_single single, if_pos named]
      · rw [firstToken?_append single, if_pos named]
  | later single other rest ih => rw [firstToken?_append single, if_neg other, ih]

theorem firstToken_of_firstToken? {query : List Char} {found : String}
    (first : firstToken? query = some found) : FirstToken query found := by
  -- By the length of the query, which is cut at its first separator.
  induction size : query.length using Nat.strongRecOn generalizing query with
  | ind length ih =>
  by_cases separated : '&' ∈ query
  · obtain ⟨parameter, rest, rfl, single⟩ := List.eq_append_cons_of_mem separated
    rw [firstToken?_append single] at first
    split at first
    · rename_i named
      obtain rfl : value parameter = found := by simpa using first
      exact .here single (.inr ⟨rest, rfl⟩) named
    · rename_i other
      have shorter : rest.length < length := by
        rw [← size, List.length_append, List.length_cons]
        omega
      exact .later single other (ih _ shorter first rfl)
  · rw [firstToken?_single separated] at first
    split at first
    · rename_i named
      obtain rfl : value query = found := by simpa using first
      have here := @FirstToken.here query [] separated (.inl rfl) named
      rwa [List.append_nil] at here
    · contradiction

theorem token?_eq (input : String) :
    token? input =
      ((querying (Trim.blanks input).toList).bind firstToken?).filter (· != "") := by
  rw [token?, query?_eq]
  cases querying (Trim.blanks input).toList with
  | none => rfl
  | some query =>
      simp only [Option.map_some, Option.bind_some, firstToken?, encode_ofList,
        Option.bind_eq_bind]
      cases (Form.pairs (encodeChars query)).find? (·.1 == "token") with
      | none => rfl
      | some pair => by_cases empty : pair.2 = "" <;>
          simp [Option.filter, empty]

/-- A link has the token that its first parameter of that name is given, unless it is
empty. -/
theorem token?_eq_some_iff (input token : String) :
    token? input = some token ↔ token ≠ "" ∧
      ∃ query, HasQuery (Trim.blanks input).toList query ∧ FirstToken query token := by
  rw [token?_eq, Option.filter_eq_some_iff]
  constructor
  · rintro ⟨found, some⟩
    obtain ⟨query, queried, first⟩ := Option.bind_eq_some_iff.mp found
    exact ⟨by simpa using some, query, hasQuery_of_querying queried,
      firstToken_of_firstToken? first⟩
  · rintro ⟨some, query, has, first⟩
    rw [querying_of_hasQuery has, Option.bind_some, firstToken?_of_firstToken first]
    exact ⟨rfl, by simpa using some⟩

/-- A first token that is empty is none, whatever follows it. -/
theorem token?_eq_none_of_empty {input : String} {query : List Char}
    (has : HasQuery (Trim.blanks input).toList query) (first : FirstToken query "") :
    token? input = none := by
  rw [token?_eq, querying_of_hasQuery has, Option.bind_some, firstToken?_of_firstToken first]
  rfl

/-- The parts of a link that hands over a token: what stands in front of its question mark if
it has one, the parameters in front of the token, the token as it is spelled, what follows
it behind a separator, and a fragment. -/
structure Link where
  front : Option String := none
  parameters : List String := []
  spelling : String
  rest : Option String := none
  fragment : Option String := none

namespace Link

def leading (parameters : List String) : List Char :=
  parameters.flatMap fun parameter => parameter.toList ++ ['&']

def trailing (link : Link) : List Char :=
  (link.rest.elim [] fun rest => '&' :: rest.toList) ++
    link.fragment.elim [] fun fragment => '#' :: fragment.toList

def text (link : Link) : String :=
  String.ofList ((link.front.elim [] fun front => front.toList ++ ['?']) ++
    leading link.parameters ++ "token=".toList ++ link.spelling.toList ++ link.trailing)

/-- The link hands over a token: it spells the token in form data, the parameters in front
have other keys, and the first question mark, if it has one, begins the query. -/
structure HandsOver (link : Link) (token : String) : Prop where
  nonempty : token ≠ ""
  spelled : Form.Spells (encode token) link.spelling.toList
  parameters : ∀ parameter ∈ link.parameters, '&' ∉ parameter.toList ∧ '#' ∉ parameter.toList ∧
    key parameter.toList ≠ "token"
  marked : ∀ front, link.front = some front → '?' ∉ front.toList
  bare : link.front = none → '?' ∉ leading link.parameters ∧ '?' ∉ link.trailing

/-- Where nothing stands in front of the parameters, the first of them has another key also
without the blanks that it begins with. -/
def Apart (link : Link) : Prop :=
  link.front = none → ∀ first ∈ link.parameters.head?,
    key (first.toList.dropWhile Trim.isBlank) ≠ "token"

end Link

def Blank (text : String) : Prop :=
  text.toList.all Trim.isBlank = true

theorem toList_blanks {front solid behind : List Char} (nonempty : solid ≠ [])
    (visible : ∀ character ∈ solid, Trim.isBlank character = false) :
    (Trim.blanks (String.ofList (front ++ solid ++ behind))).toList =
      front.dropWhile Trim.isBlank ++ solid ++
        (behind.reverse.dropWhile Trim.isBlank).reverse := by
  obtain ⟨first, others, begun⟩ := List.exists_cons_of_ne_nil nonempty
  obtain ⟨last, before, ended⟩ :=
    List.exists_cons_of_ne_nil (List.reverse_ne_nil_iff.mpr nonempty)
  have firstSeen : Trim.isBlank first = false := visible first (by simp [begun])
  have lastSeen : Trim.isBlank last = false :=
    visible last (List.mem_reverse.mp (by simp [ended]))
  have led : (front ++ solid ++ behind).dropWhile Trim.isBlank =
      front.dropWhile Trim.isBlank ++ solid ++ behind := by
    rw [begun, List.append_assoc, List.cons_append, Url.dropWhile_append_cons firstSeen,
      List.append_assoc, List.cons_append]
  rw [Trim.blanks, Trim.both, Trim.trailing, Trim.leading, String.toList_ofList,
    String.toList_ofList, String.toList_ofList, led, List.reverse_append, List.reverse_append,
    ended, List.cons_append, Url.dropWhile_append_cons lastSeen, ← List.cons_append, ← ended]
  simp

/-- What follows a token begins with a separator or a fragment also without the blanks
behind it. -/
theorem opens_trailing (link : Link) {behind : String} (blank : Blank behind) :
    ∃ rest fragment, ((link.trailing ++ behind.toList).reverse.dropWhile Trim.isBlank).reverse =
      rest ++ fragment ∧ Opens '&' rest ∧ '#' ∉ rest ∧ Opens '#' fragment ∧
        ('?' ∉ link.trailing → '?' ∉ rest ++ fragment) := by
  have ended : ((link.trailing ++ behind.toList).reverse.dropWhile Trim.isBlank).reverse =
      (link.trailing.reverse.dropWhile Trim.isBlank).reverse := by
    rw [List.reverse_append, List.dropWhile_append_of_pos]
    simpa using List.all_eq_true.mp blank
  have front : (link.trailing.reverse.dropWhile Trim.isBlank).reverse <+: link.trailing := by
    have suffix := List.dropWhile_suffix Trim.isBlank (l := link.trailing.reverse)
    simpa using List.reverse_prefix.mpr suffix
  rw [ended]
  revert front
  generalize (link.trailing.reverse.dropWhile Trim.isBlank).reverse = kept
  intro front
  obtain ⟨rest, fragment, rfl, whole, ends⟩ := exists_opens '#' kept
  refine ⟨rest, fragment, rfl, ?_, whole, ends, fun unmarked member =>
    unmarked (front.subset member)⟩
  cases rest with
  | nil => exact .inl rfl
  | cons first rest =>
      obtain ⟨more, split⟩ := front
      cases separated : link.rest with
      | some others =>
          simp only [Link.trailing, separated, Option.elim_some, List.cons_append,
            List.cons.injEq] at split
          exact .inr ⟨rest, by rw [split.1]⟩
      | none =>
          exfalso
          cases hashed : link.fragment with
          | none => simp [Link.trailing, separated, hashed] at split
          | some others =>
              simp only [Link.trailing, separated, hashed, Option.elim_some, Option.elim_none,
                List.nil_append, List.cons_append, List.cons.injEq] at split
              exact whole (by simp [split.1])

theorem firstToken_leading {parameters : List String} {query : List Char} {found : String}
    (others : ∀ parameter ∈ parameters, '&' ∉ parameter.toList ∧
      key parameter.toList ≠ "token") (first : FirstToken query found) :
    FirstToken (Link.leading parameters ++ query) found := by
  induction parameters with
  | nil => exact first
  | cons parameter parameters ih =>
      obtain ⟨single, other⟩ := others parameter (List.mem_cons_self ..)
      have behind := ih fun parameter member => others parameter (List.mem_cons_of_mem _ member)
      simpa [Link.leading] using FirstToken.later single other behind

theorem decodePair_token {token : String} {spelling : List Char}
    (spelled : Form.Spells (encode token) spelling) :
    Form.decodePair (encodeChars ("token=".toList ++ spelling)) = ("token", token) := by
  have octets : encodeChars ("token=".toList ++ spelling) =
      encode "token" ++ 0x3D :: encodeChars spelling := by
    rw [encodeChars_append]
    rfl
  have name : Form.decodePiece (encode "token") = "token" := decodeLossy_encode "token"
  have kept : ∀ octet ∈ encode "token", (octet != 0x3D) = true := by decide +kernel
  rw [octets, Form.decodePair, List.takeWhile_append_of_pos kept,
    List.dropWhile_append_of_pos kept]
  simp [name, spelled.decodePiece]

theorem solid_token {token : String} {spelling : List Char}
    (spelled : Form.Spells (encode token) spelling) :
    (∀ character ∈ "token=".toList ++ spelling, Trim.isBlank character = false) ∧
      '&' ∉ "token=".toList ++ spelling ∧ '#' ∉ "token=".toList ++ spelling ∧
      '?' ∉ "token=".toList ++ spelling := by
  obtain ⟨visible, single, whole, unmarked⟩ := spelled.solid
  have name : ∀ character ∈ "token=".toList, Trim.isBlank character = false := by
    intro character member
    have seen : "token=".toList.all (!Trim.isBlank ·) = true := by decide
    simpa using List.all_eq_true.mp seen character member
  refine ⟨fun character member => (List.mem_append.mp member).elim (name character)
    (visible character), ?_, ?_, ?_⟩
  · simpa using single
  · simpa using whole
  · simpa using unmarked

/-- Parameters without the blanks that the first of them begins with. -/
def unpadded : List String → List String
  | [] => []
  | first :: others => String.ofList (first.toList.dropWhile Trim.isBlank) :: others

theorem dropWhile_leading (parameters : List String) :
    (Link.leading parameters).dropWhile Trim.isBlank = Link.leading (unpadded parameters) := by
  cases parameters with
  | nil => rfl
  | cons first others =>
      simp only [Link.leading, unpadded, List.flatMap_cons, List.append_assoc,
        List.singleton_append, String.toList_ofList]
      exact Url.dropWhile_append_cons (by decide) first.toList _

theorem parameters_unpadded {parameters : List String}
    (others : ∀ parameter ∈ parameters, '&' ∉ parameter.toList ∧ '#' ∉ parameter.toList ∧
      key parameter.toList ≠ "token")
    (apart : ∀ first ∈ parameters.head?,
      key (first.toList.dropWhile Trim.isBlank) ≠ "token") :
    ∀ parameter ∈ unpadded parameters, '&' ∉ parameter.toList ∧ '#' ∉ parameter.toList ∧
      key parameter.toList ≠ "token" := by
  cases parameters with
  | nil => exact others
  | cons first rest =>
      intro parameter member
      rcases List.mem_cons.mp member with rfl | later
      · obtain ⟨single, whole, -⟩ := others first (List.mem_cons_self ..)
        rw [String.toList_ofList]
        exact ⟨fun inside => single (List.dropWhile_subset _ inside),
          fun inside => whole (List.dropWhile_subset _ inside), apart first rfl⟩
      · exact others parameter (List.mem_cons_of_mem _ later)

namespace Link.HandsOver

variable {link : Link} {token before behind : String}

/-- A query in which parameters of other keys stand in front of the token has that token. -/
theorem firstToken (handsOver : link.HandsOver token) {parameters : List String}
    {rest : List Char}
    (others : ∀ parameter ∈ parameters, '&' ∉ parameter.toList ∧
      key parameter.toList ≠ "token") (ends : Opens '&' rest) :
    FirstToken (leading parameters ++ ("token=".toList ++ link.spelling.toList ++ rest))
      token := by
  have pair := decodePair_token handsOver.spelled
  have here := FirstToken.here (solid_token handsOver.spelled).2.1 ends (by rw [key, pair])
  rw [value, pair] at here
  exact firstToken_leading others here

theorem not_mem_query {parameters : List String} {rest : List Char}
    (handsOver : link.HandsOver token)
    (others : ∀ parameter ∈ parameters, '#' ∉ parameter.toList) (whole : '#' ∉ rest) :
    '#' ∉ leading parameters ++ ("token=".toList ++ link.spelling.toList ++ rest) := by
  have inside := (solid_token handsOver.spelled).2.2.1
  intro member
  rcases List.mem_append.mp member with early | late
  · obtain ⟨parameter, listed, found⟩ := List.mem_flatMap.mp early
    rcases List.mem_append.mp found with character | separator
    · exact others parameter listed character
    · simp at separator
  · exact (List.mem_append.mp late).elim inside whole

section Queries

variable {rest fragment : List Char} (handsOver : link.HandsOver token)
  (blankBefore : Blank before) (restOpens : Opens '&' rest) (restWhole : '#' ∉ rest)
  (fragmentOpens : Opens '#' fragment)

include handsOver blankBefore restOpens restWhole fragmentOpens

theorem exists_query_of_front {front : String} (fronted : link.front = some front) :
    ∃ query, HasQuery ((before.toList ++ (front.toList ++ ['?']) ++
        leading link.parameters).dropWhile Trim.isBlank ++
          ("token=".toList ++ link.spelling.toList) ++ (rest ++ fragment)) query ∧
      FirstToken query token := by
  have others := handsOver.parameters
  refine ⟨leading link.parameters ++ ("token=".toList ++ link.spelling.toList ++ rest), ?_,
    handsOver.firstToken (fun parameter member =>
      ⟨(others parameter member).1, (others parameter member).2.2⟩) restOpens⟩
  have cut : (before.toList ++ (front.toList ++ ['?']) ++ leading link.parameters).dropWhile
      Trim.isBlank = (before.toList ++ front.toList).dropWhile Trim.isBlank ++
        '?' :: leading link.parameters := by
    rw [← Url.dropWhile_append_cons (by decide)]
    simp
  have away : '?' ∉ (before.toList ++ front.toList).dropWhile Trim.isBlank := by
    intro member
    rcases List.mem_append.mp (List.dropWhile_subset _ member) with early | late
    · have := List.all_eq_true.mp blankBefore '?' early
      contradiction
    · exact handsOver.marked front fronted late
  have has := HasQuery.marked away (handsOver.not_mem_query
    (fun parameter member => (others parameter member).2.1) restWhole) fragmentOpens
  rw [cut]
  simpa only [List.append_assoc, List.cons_append] using has

/-- Without a front the whole link is query, but for the blanks that its first parameter begins
with. -/
theorem exists_query_of_bare (apart : link.Apart) (bare : link.front = none)
    (unmarked : '?' ∉ link.trailing → '?' ∉ rest ++ fragment) :
    ∃ query, HasQuery ((before.toList ++ leading link.parameters).dropWhile Trim.isBlank ++
        ("token=".toList ++ link.spelling.toList) ++ (rest ++ fragment)) query ∧
      FirstToken query token := by
  obtain ⟨-, -, -, noMark⟩ := solid_token handsOver.spelled
  obtain ⟨noEarlyMark, noLateMark⟩ := handsOver.bare bare
  have others := parameters_unpadded handsOver.parameters (apart bare)
  refine ⟨leading (unpadded link.parameters) ++
    ("token=".toList ++ link.spelling.toList ++ rest), ?_,
    handsOver.firstToken (fun parameter member =>
      ⟨(others parameter member).1, (others parameter member).2.2⟩) restOpens⟩
  have cut : (before.toList ++ leading link.parameters).dropWhile Trim.isBlank =
      leading (unpadded link.parameters) := by
    rw [List.dropWhile_append_of_pos (List.all_eq_true.mp blankBefore), dropWhile_leading]
  have away : '?' ∉ leading (unpadded link.parameters) ++
      ("token=".toList ++ link.spelling.toList ++ rest) ++ fragment := by
    rw [← dropWhile_leading]
    intro member
    simp only [List.append_assoc] at member
    rcases List.mem_append.mp member with early | later
    · exact noEarlyMark (List.dropWhile_subset _ early)
    · rw [← List.append_assoc] at later
      exact (List.mem_append.mp later).elim noMark (unmarked noLateMark)
  have has := HasQuery.bare away (by simp) (handsOver.not_mem_query
    (fun parameter member => (others parameter member).2.1) restWhole) fragmentOpens
  rw [cut]
  simpa only [List.append_assoc] using has

end Queries

/-- Whatever blanks are around a link that hands over a token, its query has that token. -/
theorem exists_query (handsOver : link.HandsOver token) (apart : link.Apart)
    (blankBefore : Blank before) (blankBehind : Blank behind) :
    ∃ query, HasQuery (Trim.blanks (before ++ link.text ++ behind)).toList query ∧
      FirstToken query token := by
  obtain ⟨visible, -⟩ := solid_token handsOver.spelled
  obtain ⟨rest, fragment, kept, restOpens, restWhole, fragmentOpens, unmarked⟩ :=
    opens_trailing link blankBehind
  have split : before ++ link.text ++ behind = String.ofList
      (before.toList ++ (link.front.elim [] fun front => front.toList ++ ['?']) ++
        leading link.parameters ++ ("token=".toList ++ link.spelling.toList) ++
        (link.trailing ++ behind.toList)) := by
    apply String.toList_inj.mp
    simp [text]
  have nonempty : "token=".toList ++ link.spelling.toList ≠ [] := by simp
  rw [split, toList_blanks nonempty visible, kept]
  cases fronted : link.front with
  | some front =>
      exact handsOver.exists_query_of_front blankBefore restOpens restWhole fragmentOpens fronted
  | none =>
      rw [Option.elim_none, List.append_nil]
      exact handsOver.exists_query_of_bare blankBefore restOpens restWhole fragmentOpens apart
        fronted unmarked

end Link.HandsOver

/-- A token that a link hands over is found whatever blanks are around the link, parameters
of other keys in front of the token, separators or fragments behind it, and however it is
spelled.  Conversely whatever is found in a text is not empty and is given to the first
parameter named token of its query, and where that one is empty nothing is found. -/
theorem token_of_link :
    (∀ (link : Link) (token before behind : String), link.HandsOver token → link.Apart →
        Blank before → Blank behind → token? (before ++ link.text ++ behind) = some token) ∧
      (∀ input token, token? input = some token ↔ token ≠ "" ∧
        ∃ query, HasQuery (Trim.blanks input).toList query ∧ FirstToken query token) ∧
      (∀ input query, HasQuery (Trim.blanks input).toList query → FirstToken query "" →
        token? input = none) := by
  refine ⟨fun link token before behind handsOver apart blankBefore blankBehind => ?_,
    token?_eq_some_iff, fun input query has first => token?_eq_none_of_empty has first⟩
  exact (token?_eq_some_iff _ _).mpr
    ⟨handsOver.nonempty, handsOver.exists_query apart blankBefore blankBehind⟩

/-- A token of two spelled characters and a space behind another parameter, and a link whose
first token is empty. -/
theorem token_of_link_spelled :
    let link : Link :=
      { front := some "https://e.test/app", parameters := ["a=%26token", "Token=1"]
        spelling := "%c3%A9+~", rest := some "token=b", fragment := some "top?" }
    link.HandsOver "é ~" ∧ link.Apart ∧ Blank "\u00a0" ∧ Blank "\n" ∧
      token? ("\u00a0" ++ link.text ++ "\n") = some "é ~" ∧
      token? "app?token=&token=b" = none := by
  intro link
  have spelled : Form.Spells (encode "é ~") "%c3%A9+~".toList :=
    .cons (.escape 0xC3 false false) (.cons (.escape 0xA9 true true)
      (.cons .plus (.cons (@Form.Writes.itself '~' rfl) .nil)))
  have handsOver : link.HandsOver "é ~" := by
    refine ⟨by decide, spelled, ?_, ?_, fun none => by contradiction⟩
    · decide +kernel
    · rintro front found
      obtain rfl : "https://e.test/app" = front := by simpa [link] using found
      decide
  have apart : link.Apart := fun none => by contradiction
  have blankBefore : Blank "\u00a0" := by
    unfold Blank
    decide
  have blankBehind : Blank "\n" := by
    unfold Blank
    decide
  have empty : FirstToken "token=&token=b".toList "" := by
    have first := @FirstToken.here "token=".toList "&token=b".toList
      (by decide) (.inr ⟨_, rfl⟩) (by decide +kernel)
    have nothing : value "token=".toList = "" := by decide +kernel
    rwa [nothing] at first
  have trimmed : (Trim.blanks "app?token=&token=b").toList =
      "app".toList ++ '?' :: ("token=&token=b".toList ++ []) := by decide
  have has : HasQuery (Trim.blanks "app?token=&token=b").toList "token=&token=b".toList := by
    rw [trimmed]
    exact .marked (by decide) (by decide) (.inl rfl)
  exact ⟨handsOver, apart, blankBefore, blankBehind,
    token_of_link.1 link _ _ _ handsOver apart blankBefore blankBehind,
    token_of_link.2.2 _ _ has empty⟩

/-- Without a question mark the blanks that a first parameter begins with are cut, and it may
become a token. -/
theorem not_forall_handsOver_found :
    ¬ ∀ (link : Link) (token before behind : String), link.HandsOver token →
      Blank before → Blank behind → token? (before ++ link.text ++ behind) = some token := by
  intro found
  have spelled : Form.Spells (encode "abc") "abc".toList :=
    .cons (@Form.Writes.itself 'a' rfl) (.cons (@Form.Writes.itself 'b' rfl)
      (.cons (@Form.Writes.itself 'c' rfl) .nil))
  have handsOver : Link.HandsOver { parameters := [" token=x"], spelling := "abc" } "abc" := by
    refine ⟨by decide, spelled, ?_, fun front none => by contradiction, fun _ => ?_⟩
    · decide +kernel
    · decide
  have blank : Blank "" := by
    unfold Blank
    decide
  have other := found _ _ "" "" handsOver blank blank
  have first : token? ("" ++ Link.text { parameters := [" token=x"], spelling := "abc" } ++ "") =
      some "x" := by
    decide +kernel
  rw [first] at other
  exact absurd other (by decide)

end TokenLink

end SignIn
