import SignIn.Json.Number

/-!
# Skipping a value

A value under a name that a record does not know is skipped: only its form is
checked.  Brackets may nest to any depth, so the open ones are kept in a list;
the texts inside are not decoded and the numbers have no value.
-/

namespace SignIn

namespace Json

def skipEscape : Octets → Except Fault Octets
  | [] => .error (.before .endOfText [])
  | letter :: rest =>
    if (shortEscape? letter).isSome then .ok rest
    else if letter = 0x75 then (scanHex rest).map Prod.snd
    else .error (.before .invalidEscape rest)

theorem length_lt_of_skipEscape {octets rest : Octets}
    (skipped : skipEscape octets = .ok rest) : rest.length < octets.length := by
  unfold skipEscape at skipped
  split at skipped
  · simp at skipped
  · rename_i letter after
    repeat' split at skipped
    · simp only [Except.ok.injEq] at skipped
      simp [← skipped]
    · cases scanned : scanHex after with
      | error fault => simp [scanned, Except.map] at skipped
      | ok value =>
        obtain ⟨unit, left⟩ := value
        have shorter := length_lt_of_scanHex scanned
        simp only [scanned, Except.map, Except.ok.injEq] at skipped
        rw [← skipped]
        simp only [List.length_cons]
        omega
    · simp at skipped

def skipText (octets : Octets) : Except Fault Octets :=
  match octets with
  | [] => .error (.before .endOfText [])
  | octet :: rest =>
    if octet = 0x22 then
      .ok rest
    else if octet = 0x5C then
      match _ : skipEscape rest with
      | .error fault => .error fault
      | .ok rest => skipText rest
    else if octet < 0x20 then
      .error (.before .controlCharacter (octet :: rest))
    else
      skipText rest
termination_by octets.length
decreasing_by
  · have := length_lt_of_skipEscape (by assumption)
    simp only [List.length_cons]
    omega
  · simp

theorem length_lt_of_skipText {octets rest : Octets}
    (skipped : skipText octets = .ok rest) : rest.length < octets.length := by
  fun_induction skipText octets with
  | case1 => simp at skipped
  | case2 after =>
    simp only [Except.ok.injEq] at skipped
    simp [← skipped]
  | case3 => simp at skipped
  | case4 after left skippedEscape _ ih =>
    have escapeShorter := length_lt_of_skipEscape skippedEscape
    have textShorter := ih skipped
    simp only [List.length_cons]
    omega
  | case5 => simp at skipped
  | case6 octet after _ _ _ ih =>
    have textShorter := ih skipped
    simp only [List.length_cons]
    omega

/-- Skips a value that is neither a list nor an object, given its first octet. -/
def skipScalar (first : UInt8) (rest : Octets) : Except Fault Octets :=
  if first = 0x6E then scanWord [0x75, 0x6C, 0x6C] rest
  else if first = 0x74 then scanWord [0x72, 0x75, 0x65] rest
  else if first = 0x66 then scanWord [0x61, 0x6C, 0x73, 0x65] rest
  else if first = 0x2D then
    (scanNumeral .invalidNumber true rest).map Prod.snd
  else if isDigit first then
    (scanNumeral .invalidNumber false (first :: rest)).map Prod.snd
  else if first = 0x22 then skipText rest
  else .error (.onNext .expectedValue (first :: rest))

private theorem snd_of_map_ok {α : Type} {outcome : Except Fault (α × Octets)}
    {rest : Octets} (mapped : outcome.map Prod.snd = .ok rest) :
    ∃ value, outcome = .ok (value, rest) := by
  cases outcome with
  | error fault => simp [Except.map] at mapped
  | ok pair =>
    simp only [Except.map, Except.ok.injEq] at mapped
    exact ⟨pair.1, by rw [← mapped]⟩

theorem length_le_of_skipScalar {first : UInt8} {octets rest : Octets}
    (skipped : skipScalar first octets = .ok rest) : rest.length ≤ octets.length := by
  unfold skipScalar at skipped
  repeat' split at skipped
  · exact length_le_of_scanWord skipped
  · exact length_le_of_scanWord skipped
  · exact length_le_of_scanWord skipped
  · obtain ⟨_, scanned⟩ := snd_of_map_ok skipped
    have := length_lt_of_scanNumeral scanned
    omega
  · obtain ⟨_, scanned⟩ := snd_of_map_ok skipped
    have := length_lt_of_scanNumeral scanned
    simp only [List.length_cons] at this
    omega
  · have := length_lt_of_skipText skipped
    omega
  · simp at skipped

/-- A bracket that is open. -/
inductive Bracket where
  | list
  | object
  deriving DecidableEq, Repr

/-- The octet that closes a bracket. -/
def Bracket.closing : Bracket → UInt8
  | .list => 0x5D
  | .object => 0x7D

/-- The fault of a document that ends inside a bracket. -/
def Bracket.ended : Bracket → Cause
  | .list => .endOfList
  | .object => .endOfObject

/-- The fault of a value followed by neither a comma nor the closing bracket. -/
def Bracket.unclosed : Bracket → Cause
  | .list => .expectedListEnd
  | .object => .expectedObjectEnd

/-- Skips what stands before the next value inside a bracket: nothing in a list,
a name and a colon in an object. -/
def skipName (bracket : Bracket) (octets : Octets) : Except Fault Octets :=
  match bracket with
  | .list => .ok octets
  | .object =>
    match skipBlanks octets with
    | [] => .error (.onNext .endOfObject [])
    | quote :: rest =>
      if quote = 0x22 then
        match skipText rest with
        | .error fault => .error fault
        | .ok rest =>
          match skipBlanks rest with
          | [] => .error (.onNext .endOfObject [])
          | colon :: rest =>
            if colon = 0x3A then .ok rest
            else .error (.onNext .expectedColon (colon :: rest))
      else
        .error (.onNext .keyMustBeText (quote :: rest))

theorem length_le_of_skipName {bracket : Bracket} {octets rest : Octets}
    (skipped : skipName bracket octets = .ok rest) : rest.length ≤ octets.length := by
  unfold skipName at skipped
  split at skipped
  · simp only [Except.ok.injEq] at skipped
    simp [skipped]
  · have blanks := length_skipBlanks_le octets
    split at skipped
    · simp at skipped
    · rename_i quote after quoted
      rw [quoted] at blanks
      split at skipped
      · split at skipped
        · simp at skipped
        · rename_i left text
          have textShorter := length_lt_of_skipText text
          have leftBlanks := length_skipBlanks_le left
          split at skipped
          · simp at skipped
          · rename_i colon last coloned
            rw [coloned] at leftBlanks
            split at skipped
            · simp only [Except.ok.injEq] at skipped
              rw [← skipped]
              simp only [List.length_cons] at blanks leftBlanks
              omega
            · simp at skipped
      · simp at skipped

mutual

/-- Skips a value and the rest of the brackets around it, the innermost first. -/
def skipInside (brackets : List Bracket) (octets : Octets) : Except Fault Octets :=
  match _ : skipBlanks octets with
  | [] => .error (.onNext .endOfValue [])
  | first :: rest =>
    if first = 0x5B then skipAfter (.list :: brackets) false rest
    else if first = 0x7B then skipAfter (.object :: brackets) false rest
    else
      match _ : skipScalar first rest with
      | .error fault => .error fault
      | .ok rest => skipAfter brackets true rest
termination_by 2 * octets.length
decreasing_by
  all_goals
    have blanks := length_skipBlanks_le octets
    simp only [*, List.length_cons] at blanks
  · omega
  · omega
  · have := length_le_of_skipScalar (by assumption)
    omega

/-- Skips the rest of the brackets around a place that follows a value, or that
follows an opening bracket. -/
def skipAfter (brackets : List Bracket) (value : Bool) (octets : Octets) :
    Except Fault Octets :=
  match brackets with
  | [] => .ok octets
  | bracket :: outer =>
    match _ : skipBlanks octets with
    | [] => .error (.onNext bracket.ended [])
    | first :: rest =>
      if first = 0x2C && value then
        match _ : skipName bracket rest with
        | .error fault => .error fault
        | .ok rest => skipInside (bracket :: outer) rest
      else if first = bracket.closing then
        skipAfter outer true rest
      else if value then
        .error (.onNext bracket.unclosed (first :: rest))
      else
        match _ : skipName bracket (first :: rest) with
        | .error fault => .error fault
        | .ok rest => skipInside (bracket :: outer) rest
termination_by 2 * octets.length + 1
decreasing_by
  all_goals
    have blanks := length_skipBlanks_le octets
    simp only [*, List.length_cons] at blanks
  · have := length_le_of_skipName (by assumption)
    omega
  · omega
  · have := length_le_of_skipName (by assumption)
    simp only [List.length_cons] at this
    omega

end

def skipValue (octets : Octets) : Except Fault Octets :=
  skipInside [] octets

/-- Skipping leaves fewer octets where a value is due and no more octets behind one.
The two facts lean on each other: the second at a length uses the first there. -/
private theorem length_of_skip (size : Nat) :
    (∀ (brackets : List Bracket) (octets rest : Octets), octets.length = size →
      skipInside brackets octets = .ok rest → rest.length < size) ∧
    (∀ (brackets : List Bracket) (value : Bool) (octets rest : Octets),
      octets.length = size →
      skipAfter brackets value octets = .ok rest → rest.length ≤ size) := by
  induction size using Nat.strongRecOn with
  | ind size ih =>
    have afterShorter : ∀ (brackets : List Bracket) (value : Bool) (octets rest : Octets),
        octets.length < size → skipAfter brackets value octets = .ok rest →
        rest.length ≤ octets.length :=
      fun brackets value octets rest shorter skipped =>
        (ih octets.length shorter).2 brackets value octets rest rfl skipped
    have inside : ∀ (brackets : List Bracket) (octets rest : Octets),
        octets.length = size → skipInside brackets octets = .ok rest →
        rest.length < size := by
      intro brackets octets rest length skipped
      rw [skipInside] at skipped
      have blanks := length_skipBlanks_le octets
      split at skipped
      · simp at skipped
      · rename_i first after found
        simp only [found, List.length_cons] at blanks
        split at skipped
        · have := afterShorter _ _ _ _ (by omega) skipped
          omega
        · split at skipped
          · have := afterShorter _ _ _ _ (by omega) skipped
            omega
          · split at skipped
            · simp at skipped
            · rename_i left scalar
              have := length_le_of_skipScalar scalar
              have := afterShorter _ _ _ _ (by omega) skipped
              omega
    have insideLe : ∀ (brackets : List Bracket) (octets rest : Octets),
        octets.length ≤ size → skipInside brackets octets = .ok rest →
        rest.length < octets.length := by
      intro brackets octets rest length skipped
      rcases Nat.lt_or_eq_of_le length with shorter | same
      · exact (ih octets.length shorter).1 brackets octets rest rfl skipped
      · rw [same]
        exact inside brackets octets rest same skipped
    refine ⟨inside, ?_⟩
    intro brackets value octets rest length skipped
    cases brackets with
    | nil =>
      simp only [skipAfter, Except.ok.injEq] at skipped
      simp [← skipped, length]
    | cons bracket outer =>
      rw [skipAfter] at skipped
      have blanks := length_skipBlanks_le octets
      split at skipped
      · simp at skipped
      · rename_i first after found
        simp only [found, List.length_cons] at blanks
        split at skipped
        · split at skipped
          · simp at skipped
          · rename_i left named
            have := length_le_of_skipName named
            have := insideLe _ _ _ (by omega) skipped
            omega
        · split at skipped
          · have := afterShorter _ _ _ _ (by omega) skipped
            omega
          · split at skipped
            · simp at skipped
            · split at skipped
              · simp at skipped
              · rename_i left named
                have := length_le_of_skipName named
                simp only [List.length_cons] at this
                have := insideLe _ _ _ (by omega) skipped
                omega

theorem length_lt_of_skipValue {octets rest : Octets}
    (skipped : skipValue octets = .ok rest) : rest.length < octets.length :=
  (length_of_skip octets.length).1 [] octets rest rfl skipped

end Json

end SignIn
