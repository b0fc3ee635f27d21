import SignIn.Proofs.Web.Url
import SignIn.Proofs.Text.Utf8

/-!
# Plain paths

Segments of letters, digits and hyphens stand for themselves in an address: nothing of them
is escaped, dropped or taken for dots.  Behind the address of a root they are the whole path;
and so is any other text, once it has been cut at its marks and slashes and taken for dots.
-/

namespace SignIn

namespace Url

/-- Whether a character is a letter or a digit of ASCII, or a hyphen. -/
def isPlain (character : Char) : Bool :=
  character.isAlphanum || character == '-'

def isPlainSegment (segment : String) : Bool :=
  segment != "" && segment.toList.all isPlain

theorem toNat_of_isPlain {character : Char} (plain : isPlain character = true) :
    character.toNat = 45 ∨ (48 ≤ character.toNat ∧ character.toNat ≤ 57) ∨
      (65 ≤ character.toNat ∧ character.toNat ≤ 90) ∨
      (97 ≤ character.toNat ∧ character.toNat ≤ 122) := by
  rcases Bool.or_eq_true_iff.mp plain with word | hyphen
  · exact .inr (Utf8.toNat_of_isAlphanum word)
  · obtain rfl := beq_iff_eq.mp hyphen
    exact .inl rfl

theorem ne_of_isPlain {character other : Char} (plain : isPlain character = true)
    (special : isPlain other = false) : character ≠ other := by
  rintro rfl
  rw [plain] at special
  contradiction

theorem escape_of_forall {special : String} {text : List Char}
    (visible : ∀ character ∈ text, 0x20 ≤ character.toNat ∧ character.toNat ≤ 0x7E)
    (free : ∀ character ∈ text, character ∉ special.toList) :
    escape special text = String.ofList text := by
  suffices (Percent.encode (fun octet => octet < 0x20 || 0x7E < octet ||
      special.toList.contains (Char.ofNat octet.toNat)) (Utf8.encodeChars text)).map
        (fun octet => Char.ofNat octet.toNat) = text by
    rw [escape, this]
  induction text with
  | nil => rfl
  | cons character text ih =>
      obtain ⟨low, high⟩ := visible character (by simp)
      have later := ih (fun other member => visible other (by simp [member]))
        (fun other member => free other (by simp [member]))
      have octet : (UInt8.ofNat character.toNat).toNat = character.toNat :=
        Utf8.toNat_asciiOctet (by omega)
      have kept : (UInt8.ofNat character.toNat < 0x20 || 0x7E < UInt8.ofNat character.toNat ||
          special.toList.contains (Char.ofNat (UInt8.ofNat character.toNat).toNat)) = false := by
        have notLow : ¬ UInt8.ofNat character.toNat < 0x20 := by
          rw [UInt8.lt_iff_toNat_lt, octet]
          exact Nat.not_lt.mpr low
        have notHigh : ¬ 0x7E < UInt8.ofNat character.toNat := by
          rw [UInt8.lt_iff_toNat_lt, octet]
          exact Nat.not_lt.mpr high
        simp [notLow, notHigh, octet, free character]
      rw [Utf8.encodeChars_cons, Utf8.encodeChar_of_lt (by omega)]
      simp only [Percent.encode, List.singleton_append, List.flatMap_cons, kept,
        Bool.false_eq_true, if_false, List.map_cons] at later ⊢
      rw [later, octet, Char.ofNat_toNat]

theorem not_mem_pathSpecial {character : Char} (plain : isPlain character = true) :
    character ∉ pathSpecial.toList := by
  intro member
  have special : pathSpecial.toList.all (!isPlain ·) = true := by decide
  have other := List.all_eq_true.mp special character member
  rw [plain] at other
  contradiction

theorem escape_of_plain {text : List Char} (plain : ∀ character ∈ text, isPlain character = true) :
    escape pathSpecial text = String.ofList text := by
  refine escape_of_forall (fun character member => ?_) fun character member =>
    not_mem_pathSpecial (plain character member)
  have := toNat_of_isPlain (plain character member)
  omega

/-- Dots, also when they are escaped, begin with a dot or a percent sign. -/
theorem not_dots_of_isPlain {first : Char} {rest : List Char} (plain : isPlain first = true) :
    isSingleDot (String.ofList (first :: rest)) = false ∧
      isDoubleDot (String.ofList (first :: rest)) = false := by
  have letters : ∀ code < 128, isPlain (Char.ofNat code) = true →
      (Char.ofNat code).toLower ≠ '.' ∧ (Char.ofNat code).toLower ≠ '%' := by decide
  have small : first.toNat < 128 := by
    have := toNat_of_isPlain plain
    omega
  obtain ⟨notDot, notPercent⟩ : first.toLower ≠ '.' ∧ first.toLower ≠ '%' := by
    have found := letters first.toNat small
    rw [Char.ofNat_toNat] at found
    exact found plain
  have lower : (String.ofList (first :: rest)).toLower.toList =
      first.toLower :: rest.map Char.toLower := by
    show (String.map Char.toLower (String.ofList (first :: rest))).toList = _
    simp
  have differs {dots : String} (begins : ∃ mark more, dots.toList = mark :: more ∧
      (mark = '.' ∨ mark = '%')) : (String.ofList (first :: rest)).toLower ≠ dots := by
    rintro rfl
    obtain ⟨mark, more, same, special⟩ := begins
    rw [lower] at same
    obtain ⟨rfl, _⟩ := List.cons.inj same
    exact special.elim notDot notPercent
  have dot : ∀ dots ∈ [".", "%2e", "..", ".%2e", "%2e.", "%2e%2e"], ∃ mark more,
      dots.toList = mark :: more ∧ (mark = '.' ∨ mark = '%') := by
    simp
  constructor
  · simp only [isSingleDot, Bool.or_eq_false_iff, beq_eq_false_iff_ne]
    exact ⟨differs (dot _ (by simp)), differs (dot _ (by simp))⟩
  · simp only [isDoubleDot, List.contains_eq_mem, decide_eq_false_iff_not, List.mem_cons,
      List.not_mem_nil, or_false, not_or]
    exact ⟨differs (dot _ (by simp)), differs (dot _ (by simp)), differs (dot _ (by simp)),
      differs (dot _ (by simp))⟩

def advance (reversed : List String) (segment : String) : List String :=
  if isDoubleDot segment then leave reversed
  else if isSingleDot segment then reversed
  else segment :: reversed

theorem resolve_append (reversed before : List String) (next : String) (after : List String) :
    resolve reversed (before ++ next :: after) =
      resolve (before.foldl advance reversed) (next :: after) := by
  induction before generalizing reversed with
  | nil => rfl
  | cons segment before ih =>
      have step (second : String) (more : List String) :
          resolve reversed (segment :: second :: more) =
            resolve (advance reversed segment) (second :: more) := by
        rw [resolve, advance]
        split
        · rfl
        · split <;> rfl
      rw [List.foldl_cons, ← ih]
      cases before with
      | nil => exact step next after
      | cons second more => exact step second (more ++ next :: after)

theorem resolve_of_forall (reversed : List String) {segments : List String}
    (plain : ∀ segment ∈ segments, isSingleDot segment = false ∧ isDoubleDot segment = false) :
    resolve reversed segments = reversed.reverse ++ segments := by
  induction segments generalizing reversed with
  | nil => simp [resolve]
  | cons segment segments ih =>
      obtain ⟨notSingle, notDouble⟩ := plain segment (by simp)
      cases segments with
      | nil => simp [resolve, notSingle, notDouble]
      | cons second more =>
          have later := ih (segment :: reversed) fun other member =>
            plain other (List.mem_cons_of_mem segment member)
          rw [resolve, notSingle, notDouble]
          simpa using later

def relative : List Char → List Char
  | '/' :: rest => rest
  | other => other

/-- A character of a path, with a slash for whatever separates segments. -/
def slashed (special : Bool) (character : Char) : Char :=
  if isSlash special character then '/' else character

def pieces (special : Bool) (path : List Char) : List String :=
  ((path.map (slashed special)).splitOn '/').map (escape pathSpecial)

theorem slashed_slash (special : Bool) : slashed special '/' = '/' := by
  simp [slashed]

theorem pieces_nil (special : Bool) : pieces special [] = [""] := by
  rfl

theorem pieces_append (special : Bool) (front more : List Char) :
    pieces special (front ++ '/' :: more) = pieces special front ++ pieces special more := by
  rw [pieces, List.map_append, List.map_cons, slashed_slash, List.splitOn_append_cons_self,
    List.map_append]
  rfl

/-- What stands in front of a slash gives some segments of its own, wherever the path goes on. -/
theorem parsePath_append (special : Bool) (before : List Char) :
    ∃ above : List String, ∀ more : List Char,
      parsePath special (before ++ '/' :: more) = resolve [] (above ++ pieces special more) := by
  have whole (more : List Char) : parsePath special (before ++ '/' :: more) =
      resolve [] (((relative (before.map (slashed special) ++
        '/' :: more.map (slashed special))).splitOn '/').map (escape pathSpecial)) := by
    have mapped : (before ++ '/' :: more).map (slashed special) =
        before.map (slashed special) ++ '/' :: more.map (slashed special) := by
      rw [List.map_append, List.map_cons, slashed_slash]
    rw [← mapped]
    unfold parsePath
    rw [if_neg (by simp)]
    rfl
  cases mapped : before.map (slashed special) with
  | nil => exact ⟨[], fun more => by rw [whole, mapped]; rfl⟩
  | cons first rest =>
      by_cases same : first = '/'
      · subst same
        refine ⟨(rest.splitOn '/').map (escape pathSpecial), fun more => ?_⟩
        rw [whole, mapped, List.cons_append, relative, List.splitOn_append_cons_self,
          List.map_append]
        rfl
      · refine ⟨((first :: rest).splitOn '/').map (escape pathSpecial), fun more => ?_⟩
        have stays (text : List Char) : relative (first :: rest ++ '/' :: text) =
            first :: rest ++ '/' :: text := by
          rw [List.cons_append, relative]
          intro others begins
          exact same (List.cons.inj begins).1
        rw [whole, mapped, stays, List.splitOn_append_cons_self, List.map_append]
        rfl

/-- Behind a front that comes to nothing a path is what its pieces come to. -/
theorem parsePath_of_root {special : Bool} {before : List Char}
    (root : parsePath special (before ++ ['/']) = [""]) (more : List Char) :
    parsePath special (before ++ '/' :: more) = resolve [] (pieces special more) := by
  obtain ⟨above, paths⟩ := parsePath_append special before
  have nothing : above.foldl advance [] = [] := by
    have bare := paths []
    have notDouble : isDoubleDot "" = false := by decide +kernel
    have notSingle : isSingleDot "" = false := by decide +kernel
    rw [root, pieces_nil, resolve_append, resolve, notDouble, notSingle] at bare
    simpa using bare.symm
  obtain ⟨next, after, written⟩ : ∃ next after, pieces special more = next :: after := by
    refine List.exists_cons_of_ne_nil fun empty => ?_
    simp [pieces] at empty
  rw [paths, written, resolve_append, nothing]

def join (segments : List String) : List Char :=
  ['/'].intercalate (segments.map String.toList)

theorem mem_join {segments : List String} {character : Char} (member : character ∈ join segments) :
    character = '/' ∨ ∃ segment ∈ segments, character ∈ segment.toList := by
  induction segments with
  | nil => simp [join, List.intercalate] at member
  | cons segment segments ih =>
      cases segments with
      | nil => exact .inr ⟨segment, by simp, by simpa [join, List.intercalate] using member⟩
      | cons second more =>
          rw [join, List.map_cons, List.map_cons, List.intercalate_cons_cons, List.mem_append,
            List.mem_append] at member
          rcases member with (inFirst | slash) | later
          · exact .inr ⟨segment, by simp, inFirst⟩
          · exact .inl (by simpa using slash)
          · exact (ih later).imp_right fun ⟨other, among, inside⟩ =>
              ⟨other, List.mem_cons_of_mem segment among, inside⟩

section Plain

variable {segments : List String}

theorem isPlain_of_mem (plain : ∀ segment ∈ segments, isPlainSegment segment = true) :
    ∀ segment ∈ segments, ∀ character ∈ segment.toList, isPlain character = true := by
  intro segment among character member
  have characters := plain segment among
  simp only [isPlainSegment, Bool.and_eq_true, List.all_eq_true] at characters
  exact characters.2 character member

/-- Only slashes and plain characters stand in a path of plain characters. -/
theorem eq_slash_or_isPlain_of_mem_join
    (plain : ∀ segment ∈ segments, ∀ character ∈ segment.toList, isPlain character = true)
    {character : Char} (member : character ∈ join segments) :
    character = '/' ∨ isPlain character = true :=
  (mem_join member).imp_right fun ⟨segment, among, inside⟩ => plain segment among character inside

theorem ne_of_mem_join
    (plain : ∀ segment ∈ segments, ∀ character ∈ segment.toList, isPlain character = true)
    {character other : Char} (member : character ∈ join segments) (notSlash : other ≠ '/')
    (notPlain : isPlain other = false) : character ≠ other := by
  rcases eq_slash_or_isPlain_of_mem_join plain member with rfl | plainCharacter
  · exact notSlash.symm
  · exact ne_of_isPlain plainCharacter notPlain

theorem splitOn_join (solid : ∀ segment ∈ segments, '/' ∉ segment.toList) (some : segments ≠ []) :
    (join segments).splitOn '/' = segments.map String.toList := by
  refine List.splitOn_intercalate '/' ?_ (by simpa using some)
  intro text member
  obtain ⟨segment, among, rfl⟩ := List.mem_map.mp member
  exact solid segment among

theorem not_mem_join {mark : Char} (notSlash : mark ≠ '/')
    (absent : ∀ segment ∈ segments, mark ∉ segment.toList) : mark ∉ join segments := by
  intro member
  rcases mem_join member with slash | ⟨segment, among, inside⟩
  · exact notSlash slash
  · exact absent segment among inside

theorem not_mem_of_isPlainSegment {segment : String} (plain : isPlainSegment segment = true)
    {mark : Char} (notPlain : isPlain mark = false) : mark ∉ segment.toList := by
  intro member
  have onlyPlain : ∀ other ∈ [segment], isPlainSegment other = true := by simpa using plain
  have strange := isPlain_of_mem onlyPlain segment (by simp) mark member
  rw [notPlain] at strange
  contradiction

theorem exists_of_isPlainSegment {segment : String} (plain : isPlainSegment segment = true) :
    ∃ first rest, segment.toList = first :: rest ∧ isPlain first = true := by
  simp only [isPlainSegment, Bool.and_eq_true, bne_iff_ne, List.all_eq_true] at plain
  cases written : segment.toList with
  | nil => exact absurd (String.toList_eq_nil_iff.mp written) plain.1
  | cons first rest => exact ⟨first, rest, rfl, plain.2 first (by simp [written])⟩

theorem not_dots_of_isPlainSegment {segment : String} (plain : isPlainSegment segment = true) :
    isSingleDot segment = false ∧ isDoubleDot segment = false := by
  obtain ⟨first, rest, written, plainFirst⟩ := exists_of_isPlainSegment plain
  have same : segment = String.ofList (first :: rest) := by
    rw [← written, String.ofList_toList]
  rw [same]
  exact not_dots_of_isPlain plainFirst

/-- Plain segments are the pieces of their path. -/
theorem pieces_join (special : Bool)
    (plain : ∀ segment ∈ segments, isPlainSegment segment = true) (some : segments ≠ []) :
    pieces special (join segments) = segments := by
  have kept : (join segments).map (slashed special) = join segments := by
    rw [List.map_congr_left, List.map_id]
    intro character member
    have noBackslash : character ≠ '\\' :=
      ne_of_mem_join (isPlain_of_mem plain) member (by decide) (by decide)
    by_cases slash : character = '/'
    · rw [slash, slashed_slash, id]
    · simp [slashed, isSlash, slash, noBackslash]
  have solid : ∀ segment ∈ segments, '/' ∉ segment.toList := fun segment member =>
    not_mem_of_isPlainSegment (plain segment member) (by decide)
  rw [pieces, kept, splitOn_join solid some, List.map_map]
  refine (List.map_congr_left fun segment member => ?_).trans (List.map_id segments)
  rw [Function.comp, escape_of_plain (isPlain_of_mem plain segment member),
    String.ofList_toList, id]

/-- An address that names nothing but the root of a server, without a user. -/
structure IsRoot (url : Url) : Prop where
  username : url.username = ""
  password : url.password = none
  segments : url.segments = [""]
  query : url.query = none
  fragment : url.fragment = none

theorem cut_of_forall {stop : Char → Bool} {text : List Char}
    (free : ∀ character ∈ text, stop character = false) : cut stop text = (text, []) := by
  have passes : ∀ character ∈ text, (!stop character) = true := fun character member => by
    rw [free character member]
    rfl
  have dropped : text.dropWhile (!stop ·) = [] := by
    have whole : (text ++ []).dropWhile (!stop ·) = [] := List.dropWhile_append_of_pos passes
    rwa [List.append_nil] at whole
  have taken : text.takeWhile (!stop ·) = text := by
    have whole := List.takeWhile_append_dropWhile (p := (!stop ·)) (l := text)
    rwa [dropped, List.append_nil] at whole
  rw [cut, taken, dropped]

theorem forall_of_cut {stop : Char → Bool} {text : List Char}
    (nothing : (cut stop text).2 = []) : ∀ character ∈ text, stop character = false := by
  have dropped : text.dropWhile (!stop ·) = [] := nothing
  have all := List.any_dropWhile (p := (!stop ·)) (l := text)
  rw [dropped] at all
  simpa using all

theorem filter_isKept_of_forall {text : List Char}
    (visible : ∀ character ∈ text, 0x20 < character.toNat) : text.filter isKept = text := by
  rw [List.filter_eq_self]
  intro character member
  have code := visible character member
  simp only [isKept, Bool.and_eq_true, bne_iff_ne]
  exact ⟨⟨by rintro rfl; contradiction, by rintro rfl; contradiction⟩,
    by rintro rfl; contradiction⟩

theorem tail_of_forall {text : List Char} (visible : ∀ character ∈ text, 0x20 < character.toNat) :
    tail text = text := by
  have ended : text.reverse.dropWhile isEdge = text.reverse := by
    cases reversed : text.reverse with
    | nil => rfl
    | cons last before =>
        have code := visible last (List.mem_reverse.mp (by simp [reversed]))
        exact List.dropWhile_cons_of_neg (by simpa [isEdge] using code)
  rw [tail, ended, List.reverse_reverse, filter_isKept_of_forall visible]

end Plain

/-- The marks are looked for behind a front without them. -/
theorem cut_append {stop : Char → Bool} {front : List Char}
    (free : ∀ character ∈ front, stop character = false) (text : List Char) :
    cut stop (front ++ text) = (front ++ (cut stop text).1, (cut stop text).2) := by
  have passes : ∀ character ∈ front, (!stop character) = true := fun character member => by
    rw [free character member]
    rfl
  rw [cut, List.takeWhile_append_of_pos passes, List.dropWhile_append_of_pos passes, cut]

theorem forall_of_locate {scheme : String} {special : Bool} {authority : Authority}
    {rest : List Char} (fragment : (locate scheme special authority rest).fragment = none)
    (query : (locate scheme special authority rest).query = none) :
    ∀ character ∈ rest, decide (character = '#') = false ∧ decide (character = '?') = false := by
  have noFragment : ∀ character ∈ rest, decide (character = '#') = false := by
    apply forall_of_cut
    unfold locate at fragment
    simp only at fragment
    split at fragment
    · rename_i nothing
      exact List.isEmpty_iff.mp nothing
    · contradiction
  have noQuery : ∀ character ∈ rest, decide (character = '?') = false := by
    apply forall_of_cut
    unfold locate at query
    rw [cut_of_forall noFragment] at query
    simp only at query
    split at query
    · rename_i nothing
      exact List.isEmpty_iff.mp nothing
    · contradiction
  exact fun character member => ⟨noFragment character member, noQuery character member⟩

/-- The address that a text spells behind the address of a root. -/
def extend (root : Url) (text : List Char) : Url :=
  let (beforeFragment, fragment) := cut (· = '#') text
  let (path, query) := cut (· = '?') beforeFragment
  { root with
    segments := resolve [] (pieces (isSpecial root.scheme) path)
    query :=
      if query.isEmpty then none
      else some (escape (querySpecial (!isSpecial root.scheme)) (query.drop 1))
    fragment :=
      if fragment.isEmpty then none else some (escape fragmentSpecial (fragment.drop 1)) }

/-- The server of the root and its user stay. -/
theorem extend_server (root : Url) (text : List Char) :
    (root.extend text).scheme = root.scheme ∧ (root.extend text).username = root.username ∧
      (root.extend text).password = root.password ∧ (root.extend text).host = root.host ∧
      (root.extend text).port = root.port :=
  ⟨rfl, rfl, rfl, rfl, rfl⟩

/-- Whatever stands behind the address of a root goes to the path, the query and the fragment. -/
theorem parse?_behind_root {base : String} {root : Url}
    (parsed : parse? (base ++ "/") = some root) (isRoot : root.IsRoot) (more : String) :
    parse? (base ++ "/" ++ more) = some (root.extend (tail more.toList)) := by
  obtain ⟨scheme, authority, before, reads⟩ := parse?_append parsed
  have located : root = locate scheme (isSpecial scheme) authority (before ++ ['/']) := by
    have bare := reads ""
    rw [String.append_empty, parsed, String.toList_empty, tail_nil] at bare
    exact Option.some.inj bare
  have free := forall_of_locate (located ▸ isRoot.fragment) (located ▸ isRoot.query)
  have freeBefore : ∀ character ∈ before ++ ['/'], decide (character = '#') = false :=
    fun character member => (free character member).1
  have noQuery : ∀ character ∈ before ++ ['/'], decide (character = '?') = false :=
    fun character member => (free character member).2
  have path (text : List Char) : parsePath (isSpecial scheme) (before ++ '/' :: text) =
      resolve [] (pieces (isSpecial scheme) text) := by
    refine parsePath_of_root ?_ text
    have segments := isRoot.segments
    rw [located, locate, cut_of_forall freeBefore] at segments
    simp only at segments
    rwa [cut_of_forall noQuery] at segments
  have whole (text : List Char) : before ++ '/' :: text = before ++ ['/'] ++ text := by
    simp
  rw [reads, locate, whole, cut_append freeBefore]
  simp only
  rw [cut_append noQuery, ← whole]
  simp only [path, extend]
  rw [located, locate]

/-- Behind the address of a root plain segments are read as they stand. -/
theorem parse?_of_root {base : String} {root : Url} {segments : List String}
    (parsed : parse? (base ++ "/") = some root) (isRoot : root.IsRoot)
    (plain : ∀ segment ∈ segments, isPlainSegment segment = true) (nonempty : segments ≠ []) :
    parse? (base ++ "/" ++ String.ofList (join segments)) = some { root with segments } := by
  have visible : tail (join segments) = join segments := by
    refine tail_of_forall fun character member => ?_
    rcases eq_slash_or_isPlain_of_mem_join (isPlain_of_mem plain) member with rfl | plainCharacter
    · decide
    · have := toNat_of_isPlain plainCharacter
      omega
  have noMark {mark : Char} (notSlash : mark ≠ '/') (notPlain : isPlain mark = false) :
      ∀ character ∈ join segments, decide (character = mark) = false := fun character member =>
    decide_eq_false (ne_of_mem_join (isPlain_of_mem plain) member notSlash notPlain)
  have resolved : resolve [] segments = segments :=
    resolve_of_forall [] fun segment member => not_dots_of_isPlainSegment (plain segment member)
  have extended : root.extend (join segments) = { root with segments } := by
    rw [extend, cut_of_forall (noMark (by decide) (by decide))]
    simp only
    rw [cut_of_forall (noMark (by decide) (by decide))]
    simp only [pieces_join _ plain nonempty, resolved, List.isEmpty_nil, if_true]
    rw [isRoot.query, isRoot.fragment]
  rw [parse?_behind_root parsed isRoot, String.toList_ofList, visible, extended]

theorem join_cons (first : String) (segments : List String) :
    join (first :: segments) =
      first.toList ++ segments.flatMap fun segment => '/' :: segment.toList := by
  induction segments generalizing first with
  | nil => simp [join, List.intercalate]
  | cons second more ih =>
      have later := ih second
      rw [join, List.map_cons] at later
      rw [join, List.map_cons, List.map_cons, List.intercalate_cons_cons, later]
      simp

theorem dropWhile_slash_join {segments : List String}
    (plain : ∀ segment ∈ segments, isPlainSegment segment = true) :
    (join segments).dropWhile (· = '/') = join segments := by
  cases segments with
  | nil => rfl
  | cons segment segments =>
      obtain ⟨first, rest, written, plainFirst⟩ := exists_of_isPlainSegment (plain segment (by simp))
      have notSlash : first ≠ '/' := ne_of_isPlain plainFirst rfl
      rw [join_cons, written, List.cons_append, List.dropWhile_cons_of_neg (by simpa using notSlash)]

theorem toList_target {url : Url} (query : url.query = none) :
    url.target.toList = join ("" :: url.segments) := by
  rw [join_cons, target, query, Url.path]
  simp [List.flatMap_map]

end Url

end SignIn
