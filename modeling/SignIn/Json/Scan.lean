import SignIn.Json.Fault

/-!
# Blanks, words and texts of a document

The smallest pieces of a document.  Each scanner takes the octets that are left and
gives back those that follow the piece, never more than it took.
-/

namespace SignIn

namespace Json

/-- The octets that may stand between the pieces of a document. -/
def isBlank (octet : UInt8) : Bool :=
  octet = 0x20 || octet = 0x09 || octet = 0x0A || octet = 0x0D

/-- The octets from the next piece on. -/
def skipBlanks (octets : Octets) : Octets :=
  octets.dropWhile isBlank

theorem length_skipBlanks_le (octets : Octets) :
    (skipBlanks octets).length ≤ octets.length :=
  (List.dropWhile_sublist isBlank).length_le

/-- Reads the rest of a word whose first letter has been read. -/
def scanWord : (word : Octets) → (octets : Octets) → Except Fault Octets
  | [], octets => .ok octets
  | _ :: _, [] => .error (.before .endOfValue [])
  | letter :: word, octet :: octets =>
    if octet = letter then scanWord word octets
    else .error (.before .expectedWord octets)

theorem length_le_of_scanWord {word octets rest : Octets}
    (scanned : scanWord word octets = .ok rest) : rest.length ≤ octets.length := by
  induction word generalizing octets with
  | nil =>
    simp only [scanWord, Except.ok.injEq] at scanned
    simp [scanned]
  | cons letter word ih =>
    cases octets with
    | nil => simp [scanWord] at scanned
    | cons octet octets =>
      simp only [scanWord] at scanned
      split at scanned
      · have := ih scanned
        simp only [List.length_cons]
        omega
      · simp at scanned

def hexValue? (octet : UInt8) : Option Nat :=
  if 0x30 ≤ octet && octet ≤ 0x39 then some (octet.toNat - 0x30)
  else if 0x41 ≤ octet && octet ≤ 0x46 then some (octet.toNat - 0x37)
  else if 0x61 ≤ octet && octet ≤ 0x66 then some (octet.toNat - 0x57)
  else none

/-- Reads the four digits of a hexadecimal escape. -/
def scanHex : Octets → Except Fault (Nat × Octets)
  | first :: second :: third :: fourth :: rest =>
    match hexValue? first, hexValue? second, hexValue? third, hexValue? fourth with
    | some a, some b, some c, some d => .ok (((a * 16 + b) * 16 + c) * 16 + d, rest)
    | _, _, _, _ => .error (.before .invalidEscape rest)
  | _ => .error (.before .endOfText [])

theorem length_lt_of_scanHex {octets rest : Octets} {value : Nat}
    (scanned : scanHex octets = .ok (value, rest)) : rest.length < octets.length := by
  unfold scanHex at scanned
  repeat' split at scanned
  all_goals
    simp only [reduceCtorEq, Except.ok.injEq, Prod.mk.injEq] at scanned
  all_goals
    obtain ⟨_, rfl⟩ := scanned
    simp
    try omega

/-- The first half of a pair of surrogates. -/
def isLeading (unit : Nat) : Bool :=
  0xD800 ≤ unit && unit ≤ 0xDBFF

/-- The second half of a pair of surrogates. -/
def isTrailing (unit : Nat) : Bool :=
  0xDC00 ≤ unit && unit ≤ 0xDFFF

/-- Reads the digits of a hexadecimal escape, and after the first half of a pair of
surrogates a second escape with the other half. -/
def scanCodePoint (octets : Octets) : Except Fault (Nat × Octets) :=
  match scanHex octets with
  | .error fault => .error fault
  | .ok (unit, rest) =>
    if isTrailing unit then
      .error (.before .loneSurrogate rest)
    else if isLeading unit then
      match rest with
      | [] => .error (.before .endOfText [])
      | 0x5C :: [] => .error (.before .endOfText [])
      | 0x5C :: 0x75 :: rest =>
        match scanHex rest with
        | .error fault => .error fault
        | .ok (second, rest) =>
          if isTrailing second then
            .ok (0x10000 + (unit - 0xD800) * 0x400 + (second - 0xDC00), rest)
          else
            .error (.before .loneSurrogate rest)
      | 0x5C :: _ :: rest => .error (.before .endOfHexEscape rest)
      | _ :: rest => .error (.before .endOfHexEscape rest)
    else
      .ok (unit, rest)

theorem length_lt_of_scanCodePoint {octets rest : Octets} {value : Nat}
    (scanned : scanCodePoint octets = .ok (value, rest)) :
    rest.length < octets.length := by
  unfold scanCodePoint at scanned
  split at scanned
  · simp at scanned
  · rename_i unit afterFirst first
    have firstShorter := length_lt_of_scanHex first
    repeat' split at scanned
    all_goals
      simp only [reduceCtorEq, Except.ok.injEq, Prod.mk.injEq] at scanned
    · rename_i second _
      have secondShorter := length_lt_of_scanHex second
      obtain ⟨_, rfl⟩ := scanned
      simp only [List.length_cons] at firstShorter
      omega
    · obtain ⟨_, rfl⟩ := scanned
      exact firstShorter

/-- The octet that a one-letter escape stands for. -/
def shortEscape? (letter : UInt8) : Option UInt8 :=
  if letter = 0x22 || letter = 0x5C || letter = 0x2F then some letter
  else if letter = 0x62 then some 0x08
  else if letter = 0x66 then some 0x0C
  else if letter = 0x6E then some 0x0A
  else if letter = 0x72 then some 0x0D
  else if letter = 0x74 then some 0x09
  else none

/-- Reads what follows a backslash: the octets it stands for. -/
def scanEscape : Octets → Except Fault (Octets × Octets)
  | [] => .error (.before .endOfText [])
  | letter :: rest =>
    match shortEscape? letter with
    | some octet => .ok ([octet], rest)
    | none =>
      if letter = 0x75 then
        match scanCodePoint rest with
        | .error fault => .error fault
        | .ok (code, rest) => .ok (Utf8.encodeChar (Char.ofNat code), rest)
      else
        .error (.before .invalidEscape rest)

theorem length_lt_of_scanEscape {octets rest value : Octets}
    (scanned : scanEscape octets = .ok (value, rest)) :
    rest.length < octets.length := by
  unfold scanEscape at scanned
  repeat' split at scanned
  all_goals
    simp only [reduceCtorEq, Except.ok.injEq, Prod.mk.injEq] at scanned
  · obtain ⟨_, rfl⟩ := scanned
    simp
  · rename_i pointed
    have shorter := length_lt_of_scanCodePoint pointed
    obtain ⟨_, rfl⟩ := scanned
    simp only [List.length_cons]
    omega

/-- Reads a text up to its closing quote: the octets it spells. -/
def scanSpelled (octets : Octets) : Except Fault (Octets × Octets) :=
  match octets with
  | [] => .error (.before .endOfText [])
  | octet :: rest =>
    if octet = 0x22 then
      .ok ([], rest)
    else if octet = 0x5C then
      match _ : scanEscape rest with
      | .error fault => .error fault
      | .ok (escaped, rest) =>
        match scanSpelled rest with
        | .error fault => .error fault
        | .ok (spelled, rest) => .ok (escaped ++ spelled, rest)
    else if octet < 0x20 then
      .error (.before .controlCharacter rest)
    else
      match scanSpelled rest with
      | .error fault => .error fault
      | .ok (spelled, rest) => .ok (octet :: spelled, rest)
termination_by octets.length
decreasing_by
  · have := length_lt_of_scanEscape (by assumption)
    simp only [List.length_cons]
    omega
  · simp

theorem length_lt_of_scanSpelled {octets rest spelled : Octets}
    (scanned : scanSpelled octets = .ok (spelled, rest)) :
    rest.length < octets.length := by
  fun_induction scanSpelled octets generalizing spelled with
  | case1 => simp at scanned
  | case2 rest' =>
    simp only [Except.ok.injEq, Prod.mk.injEq] at scanned
    obtain ⟨_, rfl⟩ := scanned
    simp
  | case3 => simp at scanned
  | case4 => simp at scanned
  | case5 rest' escaped afterEscape scannedEscape spelled' last spelling _ ih =>
    simp only [Except.ok.injEq, Prod.mk.injEq] at scanned
    obtain ⟨_, rfl⟩ := scanned
    have escapeShorter := length_lt_of_scanEscape scannedEscape
    have textShorter := ih spelling
    simp only [List.length_cons]
    omega
  | case6 => simp at scanned
  | case7 => simp at scanned
  | case8 octet rest' _ _ _ spelled' last spelling ih =>
    simp only [Except.ok.injEq, Prod.mk.injEq] at scanned
    obtain ⟨_, rfl⟩ := scanned
    have textShorter := ih spelling
    simp only [List.length_cons]
    omega

/-- Reads a text up to its closing quote.  What it spells must be UTF-8; if it is
not, the point reported is counted back from the quote over the spelled octets. -/
def scanText (octets : Octets) : Except Fault (String × Octets) :=
  match scanSpelled octets with
  | .error fault => .error fault
  | .ok (spelled, rest) =>
    match Utf8.decode? spelled with
    | some text => .ok (text, rest)
    | none =>
      .error ⟨.invalidCodePoint,
        rest.length + spelled.length - Utf8.soundLength spelled⟩

theorem length_lt_of_scanText {octets rest : Octets} {text : String}
    (scanned : scanText octets = .ok (text, rest)) : rest.length < octets.length := by
  unfold scanText at scanned
  split at scanned
  · simp at scanned
  · rename_i spelled after spelling
    split at scanned
    · simp only [Except.ok.injEq, Prod.mk.injEq] at scanned
      obtain ⟨_, rfl⟩ := scanned
      exact length_lt_of_scanSpelled spelling
    · simp at scanned

end Json

end SignIn
