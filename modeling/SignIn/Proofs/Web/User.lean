import SignIn.Proofs.Web.Path

/-!
# Users of addresses

The user of an address stands in its authority, and the path that a client puts behind a base
can bring none in.  Either the base has an authority of its own, which the slash behind it
ends; or the base ends before any authority, and then the first word of the path is taken for
one, but words have no user.
-/

namespace SignIn

namespace Url

/-- An address that names neither a user nor a password. -/
structure IsUserless (url : Url) : Prop where
  username : url.username = ""
  password : url.password = none

/-- Two addresses with one user. -/
structure SameUser (first second : Url) : Prop where
  username : first.username = second.username
  password : first.password = second.password

theorem IsUserless.of_same {first second : Url} (userless : first.IsUserless)
    (same : first.SameUser second) : second.IsUserless where
  username := by rw [← same.username, userless.username]
  password := by rw [← same.password, userless.password]

/-- A text that begins with a word: plain characters, which end the text or a slash follows
them. -/
inductive BeginsWithWord : List Char → Prop where
  | intro {word rest : List Char} (nonempty : word ≠ [])
      (plain : ∀ character ∈ word, isPlain character = true)
      (ends : rest = [] ∨ ∃ more, rest = '/' :: more) : BeginsWithWord (word ++ rest)

theorem not_endsAuthority_of_isPlain {character : Char} (plain : isPlain character = true)
    (special : Bool) : endsAuthority special character = false := by
  have slash : character ≠ '/' := ne_of_isPlain plain rfl
  have backslash : character ≠ '\\' := ne_of_isPlain plain rfl
  have question : character ≠ '?' := ne_of_isPlain plain rfl
  have mark : character ≠ '#' := ne_of_isPlain plain rfl
  simp [endsAuthority, isSlash, slash, backslash, question, mark]

namespace BeginsWithWord

variable {text : List Char}

theorem exists_cons (worded : BeginsWithWord text) :
    ∃ first more, text = first :: more ∧ isPlain first = true := by
  obtain @⟨word, rest, nonempty, plain, ends⟩ := worded
  cases word with
  | nil => contradiction
  | cons first word => exact ⟨first, word ++ rest, rfl, plain first (by simp)⟩

theorem authority (worded : BeginsWithWord text) (special : Bool) :
    ∀ character ∈ text.takeWhile (!endsAuthority special ·), isPlain character = true := by
  obtain @⟨word, rest, nonempty, plain, ends⟩ := worded
  have taken : (word ++ rest).takeWhile (!endsAuthority special ·) = word := by
    have behind : rest.takeWhile (!endsAuthority special ·) = [] := by
      rcases ends with rfl | ⟨more, rfl⟩
      · rfl
      · rfl
    have passes : ∀ character ∈ word, (!endsAuthority special character) = true :=
      fun character member => by
        rw [not_endsAuthority_of_isPlain (plain character member)]
        rfl
    rw [List.takeWhile_append_of_pos passes, behind, List.append_nil]
  rw [taken]
  exact plain

theorem dropWhile_isSlash (worded : BeginsWithWord text) :
    text.dropWhile (isSlash true) = text := by
  obtain ⟨first, more, rfl, plain⟩ := worded.exists_cons
  have slash : first ≠ '/' := ne_of_isPlain plain rfl
  have backslash : first ≠ '\\' := ne_of_isPlain plain rfl
  exact List.dropWhile_cons_of_neg (by simp [isSlash, slash, backslash])

theorem tail (worded : BeginsWithWord text) : BeginsWithWord (tail text) := by
  obtain @⟨word, rest, nonempty, plain, ends⟩ := worded
  have visible : ∀ character ∈ word, 0x20 < character.toNat := fun character member => by
    have := toNat_of_isPlain (plain character member)
    omega
  rcases ends with rfl | ⟨more, rfl⟩
  · rw [List.append_nil, tail_of_forall visible]
    have bare : BeginsWithWord (word ++ []) := .intro nonempty plain (.inl rfl)
    rwa [List.append_nil] at bare
  · rw [tail_append, filter_isKept_of_forall visible]
    exact .intro nonempty plain (.inr ⟨Url.tail more, rfl⟩)

end BeginsWithWord

theorem authority?_of_isPlain {scheme : String} {special : Bool} {text : List Char}
    {found : Authority} (plain : ∀ character ∈ text, isPlain character = true)
    (read : authority? scheme special text = some found) :
    found.username = "" ∧ found.password = none := by
  have absent : splitUser text = (none, text) := by
    have mark : text.reverse.contains '@' = false := by
      rw [List.contains_eq_mem, decide_eq_false_iff_not, List.mem_reverse]
      intro member
      have strange := plain '@' member
      contradiction
    rw [splitUser, mark]
    rfl
  have nobody : parseUser [] = ("", none) := rfl
  unfold authority? at read
  rw [absent] at read
  simp only [Option.isSome_none, Bool.false_and, Bool.false_eq_true, if_false,
    Option.getD_none, nobody] at read
  split at read
  · contradiction
  · split at read
    · obtain ⟨host, _, read⟩ := Option.bind_eq_some_iff.mp read
      obtain ⟨port, _, read⟩ := Option.bind_eq_some_iff.mp read
      obtain rfl := Option.some.inj read
      exact ⟨rfl, rfl⟩
    · obtain ⟨host, _, read⟩ := Option.bind_eq_some_iff.mp read
      obtain ⟨port, _, read⟩ := Option.bind_eq_some_iff.mp read
      obtain rfl := Option.some.inj read
      exact ⟨rfl, rfl⟩

/-- A word that is taken for an authority has no user. -/
theorem isUserless_of_beginsWithWord {scheme : String} {special : Bool} {text : List Char}
    {url : Url} (worded : BeginsWithWord text)
    (read : parseAuthority? scheme special text = some url) : url.IsUserless := by
  rw [parseAuthority?_eq] at read
  obtain ⟨found, authority, rfl⟩ := Option.map_eq_some_iff.mp read
  obtain ⟨username, password⟩ := authority?_of_isPlain (worded.authority special) authority
  exact ⟨username, password⟩

/-- The user of an authority that a slash ends is the same whatever follows the slash. -/
theorem sameUser_of_parseAuthority? {scheme : String} {special : Bool} {front text : List Char}
    {url : Url} (read : parseAuthority? scheme special (front ++ '/' :: text) = some url) :
    ∃ root, parseAuthority? scheme special (front ++ ['/']) = some root ∧ root.SameUser url := by
  have slash : (!endsAuthority special '/') = false := rfl
  rw [parseAuthority?_eq, takeWhile_append_cons slash] at read ⊢
  obtain ⟨found, authority, rfl⟩ := Option.map_eq_some_iff.mp read
  rw [authority]
  exact ⟨_, rfl, rfl, rfl⟩

theorem isUserless_of_parseFile? {text : List Char} {url : Url}
    (read : parseFile? text = some url) : url.IsUserless := by
  unfold parseFile? at read
  split at read
  · split at read
    · obtain ⟨found, _, accepted⟩ := Option.bind_eq_some_iff.mp read
      split at accepted
      · contradiction
      · rename_i sound
        obtain rfl : found = url := Option.some.inj accepted
        simp only [Bool.or_eq_true, not_or, bne_iff_ne, ne_eq, Decidable.not_not] at sound
        exact ⟨sound.1.2, by simpa using sound.2⟩
    · contradiction
  · contradiction

theorem user_of_parseRest? {scheme : String} {front text : List Char} {url : Url}
    (worded : BeginsWithWord text) (read : parseRest? scheme (front ++ '/' :: text) = some url) :
    (∃ root, parseRest? scheme (front ++ ['/']) = some root ∧ root.SameUser url) ∨
      url.IsUserless := by
  unfold parseRest? at read ⊢
  by_cases implied : (impliedPort? scheme).isSome = true
  · simp only [if_pos implied] at read ⊢
    rw [List.dropWhile_append] at read ⊢
    split at read
    · -- The base ends before any authority.
      rw [List.dropWhile_cons_of_pos rfl, worded.dropWhile_isSlash] at read
      exact .inr (isUserless_of_beginsWithWord worded read)
    · rename_i inside
      rw [if_neg inside]
      exact .inl (sameUser_of_parseAuthority? read)
  · simp only [if_neg implied] at read ⊢
    by_cases file : scheme = "file"
    · simp only [if_pos file] at read
      exact .inr (isUserless_of_parseFile? read)
    · simp only [if_neg file] at read ⊢
      split at read
      · rename_i whole rest begins
        cases front with
        | nil =>
            obtain ⟨first, more, rfl, plain⟩ := worded.exists_cons
            obtain rfl : first = '/' := by simpa using (List.cons.inj (List.cons.inj begins).2).1
            contradiction
        | cons first front =>
            cases front with
            | nil =>
                obtain rfl : text = rest := by simpa using (List.cons.inj begins).2
                exact .inr (isUserless_of_beginsWithWord worded read)
            | cons second front =>
                obtain ⟨rfl, rfl, rfl⟩ :
                    first = '/' ∧ second = '/' ∧ front ++ '/' :: text = rest := by
                  simpa using begins
                exact .inl (sameUser_of_parseAuthority? read)
      · contradiction

/-- The user of an address behind a base and a slash is that of the base, or there is none. -/
theorem user_of_parse? {front more : String} {url : Url} (worded : BeginsWithWord more.toList)
    (parsed : parse? (front ++ "/" ++ more) = some url) :
    (∃ root, parse? (front ++ "/") = some root ∧ root.SameUser url) ∨ url.IsUserless := by
  have written : (front ++ "/" ++ more).toList = front.toList ++ '/' :: more.toList := by
    simp
  have bare : (front ++ "/").toList = front.toList ++ '/' :: [] := by
    simp
  rw [parse?_eq, written, clean_append] at parsed
  rw [parse?_eq, bare, clean_append]
  obtain ⟨⟨scheme, rest⟩, found, read⟩ := Option.bind_eq_some_iff.mp parsed
  obtain ⟨behind, rfl, schemes⟩ := parseScheme?_append found
  rw [tail_nil, schemes, Option.bind_some]
  exact user_of_parseRest? worded.tail read

/-- Behind a base without a user no word brings one in. -/
theorem isUserless_of_base {base more : String} {url : Url}
    (userless : ∀ root, parse? (base ++ "/") = some root → root.IsUserless)
    (worded : BeginsWithWord more.toList) (parsed : parse? (base ++ "/" ++ more) = some url) :
    url.IsUserless := by
  rcases user_of_parse? worded parsed with ⟨root, rooted, same⟩ | without
  · exact (userless root rooted).of_same same
  · exact without

end Url

end SignIn
