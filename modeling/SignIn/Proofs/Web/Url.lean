import SignIn.Web.Url

/-!
# Addresses that begin alike

When an address ends in a slash and can be read, so can every longer one that begins with
it.  The slash ends the authority at the latest, hence scheme, user, host and port are
settled, and what is added goes to the path, the query and the fragment, none of which can
be refused.
-/

namespace SignIn

namespace Url

/-- What stands between the scheme and the path of an address. -/
structure Authority where
  username : String
  password : Option String
  host : Host
  port : Option Nat
  deriving DecidableEq, Repr

def isEdge (character : Char) : Bool :=
  character.toNat ≤ 0x20

def isKept (character : Char) : Bool :=
  character != '\t' && character != '\n' && character != '\r'

def clean (text : List Char) : List Char :=
  ((text.dropWhile isEdge).reverse.dropWhile isEdge).reverse.filter isKept

def parseRest? (scheme : String) (rest : List Char) : Option Url :=
  if (impliedPort? scheme).isSome then
    parseAuthority? scheme true (rest.dropWhile (isSlash true))
  else if scheme = "file" then parseFile? rest
  else
    match rest with
    | '/' :: '/' :: rest => parseAuthority? scheme false rest
    | _ => none

theorem parse?_eq (text : String) :
    parse? text = (parseScheme? (clean text.toList)).bind fun found =>
      parseRest? found.1 found.2 :=
  rfl

/-- Whether a character ends an authority. -/
def endsAuthority (special : Bool) (character : Char) : Bool :=
  isSlash special character || character = '?' || character = '#'

def authority? (scheme : String) (special : Bool) (text : List Char) : Option Authority := do
  let (user, place) := splitUser text
  if user.isSome && place.isEmpty then none
  let (hostText, portText) := splitHost false place
  if hostText.isEmpty then none
  let host ← if special then Host.parse? hostText else Host.parseOpaque? hostText
  let port ← parsePort? scheme portText
  let (username, password) := parseUser (user.getD [])
  return { username, password, host, port }

/-- The address of a scheme, an authority and whatever follows the authority. -/
def locate (scheme : String) (special : Bool) (authority : Authority) (rest : List Char) : Url :=
  let (beforeFragment, fragment) := cut (· = '#') rest
  let (path, query) := cut (· = '?') beforeFragment
  { scheme
    username := authority.username
    password := authority.password
    host := authority.host
    port := authority.port
    segments := parsePath special path
    query :=
      if query.isEmpty then none else some (escape (querySpecial (!special)) (query.drop 1))
    fragment :=
      if fragment.isEmpty then none else some (escape fragmentSpecial (fragment.drop 1)) }

theorem parseAuthority?_eq (scheme : String) (special : Bool) (text : List Char) :
    parseAuthority? scheme special text =
      (authority? scheme special (text.takeWhile (!endsAuthority special ·))).map fun found =>
        locate scheme special found (text.dropWhile (!endsAuthority special ·)) := by
  unfold parseAuthority? authority? locate cut endsAuthority
  simp only
  split
  · rfl
  · split
    · rfl
    · cases special with
      | true =>
          cases Host.parse? _ with
          | none => rfl
          | some host => cases parsePort? scheme _ <;> rfl
      | false =>
          cases Host.parseOpaque? _ with
          | none => rfl
          | some host => cases parsePort? scheme _ <;> rfl

theorem dropWhile_append_cons {stop : Char} {drop : Char → Bool} (stops : drop stop = false)
    (front more : List Char) :
    (front ++ stop :: more).dropWhile drop = front.dropWhile drop ++ stop :: more := by
  rw [List.dropWhile_append, List.dropWhile_cons_of_neg (by simp [stops])]
  split
  · rename_i nothing
    rw [List.isEmpty_iff.mp nothing, List.nil_append]
  · rfl

theorem takeWhile_append_cons {stop : Char} {take : Char → Bool} (stops : take stop = false)
    (front more : List Char) :
    (front ++ stop :: more).takeWhile take = front.takeWhile take := by
  rw [List.takeWhile_append, List.takeWhile_cons_of_neg (by simp [stops]), List.append_nil]
  split
  · rename_i whole
    exact (List.IsPrefix.eq_of_length (List.takeWhile_prefix take) whole).symm
  · rfl

def tail (text : List Char) : List Char :=
  (text.reverse.dropWhile isEdge).reverse.filter isKept

theorem tail_nil : tail [] = [] :=
  rfl

theorem tail_append (front more : List Char) :
    tail (front ++ '/' :: more) = front.filter isKept ++ '/' :: tail more := by
  have slash : isEdge '/' = false := by decide
  have kept : isKept '/' = true := by decide
  unfold tail
  simp only [List.reverse_append, List.reverse_cons, List.append_assoc, List.singleton_append]
  rw [dropWhile_append_cons slash]
  simp [kept]

theorem clean_append (front more : List Char) :
    clean (front ++ '/' :: more) = (front.dropWhile isEdge).filter isKept ++ '/' :: tail more := by
  have slash : isEdge '/' = false := by decide
  rw [← tail_append, clean, tail, dropWhile_append_cons slash]

/-- A scheme that ends at a colon is the same wherever the text goes on. -/
theorem parseScheme?_of_colon {front behind : List Char} {colon : Char}
    (found : front.dropWhile (fun character => !decide (character = ':')) = colon :: behind)
    (more : List Char) :
    parseScheme? (front ++ more) =
      (parseScheme? front).map fun found => (found.1, behind ++ more) := by
  let before (character : Char) : Bool := !decide (character = ':')
  have split (more : List Char) : cut (· = ':') (front ++ more) =
      (front.takeWhile before, colon :: (behind ++ more)) := by
    have shorter : (front.takeWhile before).length ≠ front.length := by
      intro same
      have whole := congrArg List.length (List.takeWhile_append_dropWhile (p := before) (l := front))
      rw [List.length_append, same, found] at whole
      simp at whole
    have taken : (front ++ more).takeWhile before = front.takeWhile before := by
      rw [List.takeWhile_append, if_neg shorter]
    have dropped : (front ++ more).dropWhile before = colon :: (behind ++ more) := by
      rw [List.dropWhile_append, found]
      rfl
    exact Prod.ext taken dropped
  have bare := split []
  rw [List.append_nil, List.append_nil] at bare
  unfold parseScheme?
  rw [split more, bare]
  simp only [List.isEmpty_cons, Bool.false_or, List.drop_one, List.tail_cons]
  split <;> rfl

theorem parseScheme?_of_no_colon {front : List Char}
    (absent : front.dropWhile (fun character => !decide (character = ':')) = [])
    (more : List Char) : parseScheme? (front ++ '/' :: more) = none := by
  have whole : front.takeWhile (fun character => !decide (character = ':')) = front := by
    have parts := List.takeWhile_append_dropWhile
      (p := fun character : Char => !decide (character = ':')) (l := front)
    rw [absent, List.append_nil] at parts
    exact parts
  have taken : (front ++ '/' :: more).takeWhile (fun character => !decide (character = ':')) =
      front ++ '/' :: more.takeWhile (fun character => !decide (character = ':')) := by
    rw [List.takeWhile_append, if_pos (by rw [whole])]
    rfl
  have bad : (front ++ '/' :: more.takeWhile (fun character => !decide (character = ':'))).any
      (fun character => !(character.isAlphanum || character = '+' || character = '-' ||
        character = '.')) = true := by
    rw [List.any_append, List.any_cons]
    have strange : (!('/'.isAlphanum || '/' = '+' || '/' = '-' || '/' = '.')) = true := by decide
    rw [strange, Bool.true_or, Bool.or_true]
  unfold parseScheme? cut
  simp only [taken, bad, Bool.or_true, if_true]

/-- A scheme before a slash is the same wherever the text goes on behind it. -/
theorem parseScheme?_append {front later : List Char} {scheme : String} {rest : List Char}
    (parsed : parseScheme? (front ++ '/' :: later) = some (scheme, rest)) :
    ∃ behind, rest = behind ++ '/' :: later ∧ ∀ more,
      parseScheme? (front ++ '/' :: more) = some (scheme, behind ++ '/' :: more) := by
  cases found : front.dropWhile (fun character => !decide (character = ':')) with
  | nil =>
      rw [parseScheme?_of_no_colon found later] at parsed
      contradiction
  | cons colon behind =>
      have same := parseScheme?_of_colon found
      rw [same] at parsed
      obtain ⟨⟨name, _⟩, there, pair⟩ := Option.map_eq_some_iff.mp parsed
      obtain ⟨rfl, rfl⟩ := Prod.mk.inj pair
      exact ⟨behind, rfl, fun more => by rw [same, there, Option.map_some]⟩

/-- An authority ends at the slash at the latest, so that it is the same wherever the text
goes on. -/
theorem parseAuthority?_append {scheme : String} {special : Bool} {front : List Char} {url : Url}
    (parsed : parseAuthority? scheme special (front ++ ['/']) = some url) :
    ∃ authority before, ∀ more, parseAuthority? scheme special (front ++ '/' :: more) =
      some (locate scheme special authority (before ++ '/' :: more)) := by
  have slash : (!endsAuthority special '/') = false := rfl
  rw [parseAuthority?_eq, takeWhile_append_cons slash] at parsed
  obtain ⟨authority, found, _⟩ := Option.map_eq_some_iff.mp parsed
  refine ⟨authority, front.dropWhile (!endsAuthority special ·), fun more => ?_⟩
  rw [parseAuthority?_eq, takeWhile_append_cons slash, dropWhile_append_cons slash, found]
  rfl

theorem parseAuthority?_nil (scheme : String) (special : Bool) :
    parseAuthority? scheme special [] = none := by
  rw [parseAuthority?_eq]
  rfl

theorem parseFile?_append {front : List Char} {url : Url}
    (parsed : parseFile? (front ++ ['/']) = some url) :
    ∃ authority before, ∀ more, parseFile? (front ++ '/' :: more) =
      some (locate "file" true authority (before ++ '/' :: more)) := by
  cases front with
  | nil => contradiction
  | cons first front =>
      cases front with
      | nil =>
          -- The slash that ends the text is one of the two that it begins with.
          have nothing : parseFile? [first, '/'] = none := by
            unfold parseFile?
            simp only [parseAuthority?_nil]
            split <;> rfl
          rw [List.singleton_append, nothing] at parsed
          contradiction
      | cons second front =>
          unfold parseFile? at parsed ⊢
          simp only [List.cons_append] at parsed ⊢
          split at parsed
          · rename_i slashes
            obtain ⟨found, read, accepted⟩ := Option.bind_eq_some_iff.mp parsed
            obtain ⟨authority, before, reads⟩ := parseAuthority?_append read
            have same : found = locate "file" true authority (before ++ ['/']) :=
              Option.some.inj (read.symm.trans (reads []))
            rw [same] at accepted
            refine ⟨authority, before, fun more => ?_⟩
            rw [if_pos slashes, reads more]
            split at accepted
            · contradiction
            · rename_i sound
              exact if_neg sound
          · contradiction

/-- Whether the addresses of a scheme take a backslash for a slash. -/
def isSpecial (scheme : String) : Bool :=
  (impliedPort? scheme).isSome || scheme = "file"

/-- What is settled by a slash in all that follows the scheme. -/
theorem parseRest?_append {scheme : String} {front : List Char} {url : Url}
    (parsed : parseRest? scheme (front ++ ['/']) = some url) :
    ∃ authority before, ∀ more, parseRest? scheme (front ++ '/' :: more) =
      some (locate scheme (isSpecial scheme) authority (before ++ '/' :: more)) := by
  unfold parseRest? at parsed ⊢
  by_cases implied : (impliedPort? scheme).isSome = true
  · have special : isSpecial scheme = true := by
      rw [isSpecial, implied, Bool.true_or]
    simp only [if_pos implied] at parsed ⊢
    have dropped (more : List Char) (inside : (front.dropWhile (isSlash true)).isEmpty = false) :
        (front ++ '/' :: more).dropWhile (isSlash true) =
          front.dropWhile (isSlash true) ++ '/' :: more := by
      rw [List.dropWhile_append, if_neg (by simp [inside])]
    cases inside : (front.dropWhile (isSlash true)).isEmpty with
    | true =>
        have nothing : (front ++ ['/']).dropWhile (isSlash true) = [] := by
          rw [List.dropWhile_append, if_pos inside]
          rfl
        rw [nothing, parseAuthority?_nil] at parsed
        contradiction
    | false =>
        rw [dropped [] inside] at parsed
        obtain ⟨authority, before, reads⟩ := parseAuthority?_append parsed
        exact ⟨authority, before, fun more => by
          rw [dropped more inside, reads more, special]⟩
  · simp only [if_neg implied] at parsed ⊢
    by_cases file : scheme = "file"
    · subst file
      simp only [if_true] at parsed ⊢
      exact parseFile?_append parsed
    · have plain : isSpecial scheme = false := by
        rw [isSpecial, Bool.eq_false_iff.mpr implied, decide_eq_false file, Bool.false_or]
      simp only [if_neg file, plain] at parsed ⊢
      split at parsed
      · rename_i whole rest begins
        cases front with
        | nil => simp at begins
        | cons first front =>
            cases front with
            | nil =>
                obtain rfl : [] = rest := by simpa using (List.cons.inj begins).2
                rw [parseAuthority?_nil] at parsed
                contradiction
            | cons second front =>
                obtain ⟨rfl, rfl, rfl⟩ : first = '/' ∧ second = '/' ∧ front ++ ['/'] = rest := by
                  simpa using begins
                exact parseAuthority?_append parsed
      · contradiction

/-- When an address that ends in a slash can be read, so can every one that goes on behind that
slash, with the same scheme, user, host and port. -/
theorem parse?_append {front : String} {url : Url}
    (parsed : parse? (front ++ "/") = some url) :
    ∃ scheme authority before, ∀ more : String, parse? (front ++ "/" ++ more) =
      some (locate scheme (isSpecial scheme) authority (before ++ '/' :: tail more.toList)) := by
  have written (more : String) :
      (front ++ "/" ++ more).toList = front.toList ++ '/' :: more.toList := by
    simp
  have bare : parse? (front ++ "/" ++ "") = some url := by simpa using parsed
  simp only [parse?_eq, written, clean_append] at bare ⊢
  obtain ⟨⟨scheme, rest⟩, found, read⟩ := Option.bind_eq_some_iff.mp bare
  rw [String.toList_empty, tail_nil] at found
  obtain ⟨behind, rfl, schemes⟩ := parseScheme?_append found
  obtain ⟨authority, before, rests⟩ := parseRest?_append read
  refine ⟨scheme, authority, before, fun more => ?_⟩
  rw [schemes, Option.bind_some, rests]

end Url

end SignIn
