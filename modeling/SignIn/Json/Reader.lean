import SignIn.Json.Skip
import SignIn.Dictionary

/-!
# Readers of typed values

A reader takes a value off the front of a document, after any blanks, and says what
follows it.  Every reader takes at least one octet: the proof of that is part of
it, and it is what bounds the loops over lists and objects.
-/

namespace SignIn

namespace Json

/-- A way of reading a value off the front of a document. -/
structure Reader (α : Type) where
  run : Octets → Except Fault (α × Octets)
  shrinks : ∀ {octets rest : Octets} {value : α},
    run octets = .ok (value, rest) → rest.length < octets.length

/-- The fault of a value of the wrong kind, given its first octet.  A value that is
itself broken is reported as such; of a list or an object only the bracket is
looked at. -/
def mismatch (expected : Kind) (first : UInt8) (rest : Octets) : Fault :=
  let wrong (found : Found) (left : Octets) : Fault :=
    .before (.wrongKind found expected) left
  let word (letters : Octets) (found : Found) : Fault :=
    match scanWord letters rest with
    | .error fault => fault
    | .ok left => wrong found left
  let number (negative : Bool) (octets : Octets) : Fault :=
    match scanNumber negative octets with
    | .error fault => fault
    | .ok (.natural value, left) => wrong (.integer value) left
    | .ok (.negative magnitude, left) => wrong (.integer (-magnitude)) left
    | .ok (.float bits, left) => wrong (.float bits) left
  if first = 0x6E then word [0x75, 0x6C, 0x6C] .null
  else if first = 0x74 then word [0x72, 0x75, 0x65] (.boolean true)
  else if first = 0x66 then word [0x61, 0x6C, 0x73, 0x65] (.boolean false)
  else if first = 0x2D then number true rest
  else if isDigit first then number false (first :: rest)
  else if first = 0x22 then
    match scanText rest with
    | .error fault => fault
    | .ok (text, left) => wrong (.text text) left
  else if first = 0x5B then wrong .sequence (first :: rest)
  else if first = 0x7B then wrong .map (first :: rest)
  else .onNext .expectedValue (first :: rest)

/-- A number read where a natural number below a bound is due. -/
def Number.below (kind : Kind) (bound : Nat) (number : Number) (left : Octets) :
    Except Fault (Nat × Octets) :=
  match number with
  | .natural value =>
    if value < bound then .ok (value, left)
    else .error (.before (.outOfRange value kind) left)
  | .negative magnitude => .error (.before (.outOfRange (-magnitude) kind) left)
  | .float bits => .error (.before (.wrongKind (.float bits) kind) left)

def readBelow (kind : Kind) (bound : Nat) (octets : Octets) :
    Except Fault (Nat × Octets) :=
  match skipBlanks octets with
  | [] => .error (.onNext .endOfValue [])
  | first :: rest =>
    if first = 0x2D then
      match scanNumber true rest with
      | .error fault => .error fault
      | .ok (number, left) => number.below kind bound left
    else if isDigit first then
      match scanNumber false (first :: rest) with
      | .error fault => .error fault
      | .ok (number, left) => number.below kind bound left
    else
      .error (mismatch kind first rest)

private theorem rest_of_below {kind : Kind} {bound value : Nat} {number : Number}
    {left rest : Octets} (judged : number.below kind bound left = .ok (value, rest)) :
    rest = left := by
  unfold Number.below at judged
  repeat' split at judged
  all_goals
    simp only [reduceCtorEq, Except.ok.injEq, Prod.mk.injEq] at judged
  exact judged.2.symm

private theorem length_lt_of_readBelow {kind : Kind} {bound value : Nat}
    {octets rest : Octets} (read : readBelow kind bound octets = .ok (value, rest)) :
    rest.length < octets.length := by
  unfold readBelow at read
  have blanks := length_skipBlanks_le octets
  split at read
  · simp at read
  · rename_i first after found
    simp only [found, List.length_cons] at blanks
    repeat' split at read
    all_goals try contradiction
    · rename_i scanned
      have := length_lt_of_scanNumber scanned
      rw [rest_of_below read]
      omega
    · rename_i scanned
      have := length_lt_of_scanNumber scanned
      simp only [List.length_cons] at this
      rw [rest_of_below read]
      omega

def readText (octets : Octets) : Except Fault (String × Octets) :=
  match skipBlanks octets with
  | [] => .error (.onNext .endOfValue [])
  | first :: rest =>
    if first = 0x22 then scanText rest else .error (mismatch .text first rest)

private theorem length_lt_of_readText {octets rest : Octets} {value : String}
    (read : readText octets = .ok (value, rest)) : rest.length < octets.length := by
  unfold readText at read
  have blanks := length_skipBlanks_le octets
  split at read
  · simp at read
  · rename_i first after found
    simp only [found, List.length_cons] at blanks
    split at read
    · have := length_lt_of_scanText read
      omega
    · simp at read

def readBoolean (octets : Octets) : Except Fault (Bool × Octets) :=
  match skipBlanks octets with
  | [] => .error (.onNext .endOfValue [])
  | first :: rest =>
    if first = 0x74 then
      (scanWord [0x72, 0x75, 0x65] rest).map fun left => (true, left)
    else if first = 0x66 then
      (scanWord [0x61, 0x6C, 0x73, 0x65] rest).map fun left => (false, left)
    else
      .error (mismatch .boolean first rest)

private theorem length_le_of_mapped_scanWord {α : Type} {letters octets rest : Octets}
    {word value : α}
    (read : (scanWord letters octets).map (fun left => (word, left)) = .ok (value, rest)) :
    rest.length ≤ octets.length := by
  cases scanned : scanWord letters octets with
  | error fault => simp [scanned, Except.map] at read
  | ok left =>
    simp only [scanned, Except.map, Except.ok.injEq, Prod.mk.injEq] at read
    rw [← read.2]
    exact length_le_of_scanWord scanned

private theorem length_lt_of_readBoolean {octets rest : Octets} {value : Bool}
    (read : readBoolean octets = .ok (value, rest)) : rest.length < octets.length := by
  unfold readBoolean at read
  have blanks := length_skipBlanks_le octets
  split at read
  · simp at read
  · rename_i first after found
    simp only [found, List.length_cons] at blanks
    repeat' split at read
    · have := length_le_of_mapped_scanWord read
      omega
    · have := length_le_of_mapped_scanWord read
      omega
    · simp at read

def readOptional {α : Type} (reader : Reader α) (octets : Octets) :
    Except Fault (Option α × Octets) :=
  match skipBlanks octets with
  | 0x6E :: rest => (scanWord [0x75, 0x6C, 0x6C] rest).map fun left => (none, left)
  | _ =>
    match reader.run octets with
    | .error fault => .error fault
    | .ok (value, rest) => .ok (some value, rest)

private theorem length_lt_of_readOptional {α : Type} {reader : Reader α}
    {octets rest : Octets} {value : Option α}
    (read : readOptional reader octets = .ok (value, rest)) :
    rest.length < octets.length := by
  unfold readOptional at read
  have blanks := length_skipBlanks_le octets
  split at read
  · rename_i after found
    simp only [found, List.length_cons] at blanks
    have := length_le_of_mapped_scanWord read
    omega
  · split at read
    · simp at read
    · rename_i inner
      simp only [Except.ok.injEq, Prod.mk.injEq] at read
      rw [← read.2]
      exact reader.shrinks inner

namespace Reader

variable {α β : Type}

/-- A reader whose value is passed through a function. -/
def map (change : α → β) (reader : Reader α) : Reader β where
  run octets :=
    match reader.run octets with
    | .error fault => .error fault
    | .ok (value, rest) => .ok (change value, rest)
  shrinks := by
    intro octets rest value read
    split at read
    · simp at read
    · rename_i inner
      simp only [Except.ok.injEq, Prod.mk.injEq] at read
      rw [← read.2]
      exact reader.shrinks inner

def word64 : Reader UInt64 :=
  map UInt64.ofNat ⟨readBelow .word64 UInt64.size, length_lt_of_readBelow⟩

def word32 : Reader UInt32 :=
  map UInt32.ofNat ⟨readBelow .word32 UInt32.size, length_lt_of_readBelow⟩

def text : Reader String :=
  ⟨readText, length_lt_of_readText⟩

def boolean : Reader Bool :=
  ⟨readBoolean, length_lt_of_readBoolean⟩

def optional (reader : Reader α) : Reader (Option α) :=
  ⟨readOptional reader, length_lt_of_readOptional⟩

end Reader

/-- Looks for an item of a list, the first one or a later one: whether one follows,
and the octets from it on, or those after the closing bracket. -/
def scanItem (first : Bool) (octets : Octets) : Except Fault (Bool × Octets) :=
  match skipBlanks octets with
  | [] => .error (.onNext .endOfList [])
  | octet :: rest =>
    if octet = 0x5D then .ok (false, rest)
    else if first then .ok (true, octet :: rest)
    else if octet = 0x2C then
      match skipBlanks rest with
      | [] => .error (.onNext .endOfValue [])
      | next :: rest =>
        if next = 0x5D then .error (.onNext .trailingComma (next :: rest))
        else .ok (true, next :: rest)
    else .error (.onNext .expectedListEnd (octet :: rest))

theorem length_le_of_scanItem {first follows : Bool} {octets rest : Octets}
    (scanned : scanItem first octets = .ok (follows, rest)) :
    rest.length ≤ octets.length := by
  unfold scanItem at scanned
  have blanks := length_skipBlanks_le octets
  split at scanned
  · simp at scanned
  · rename_i octet after found
    simp only [found, List.length_cons] at blanks
    have laterBlanks := length_skipBlanks_le after
    repeat' split at scanned
    all_goals
      simp only [reduceCtorEq, Except.ok.injEq, Prod.mk.injEq] at scanned
    · rw [← scanned.2]
      omega
    · rw [← scanned.2]
      simpa using blanks
    · rename_i later _
      simp only [later, List.length_cons] at laterBlanks
      rw [← scanned.2]
      simp only [List.length_cons]
      omega

/-- Reads the end of a list all of whose places are filled. -/
def scanListEnd (octets : Octets) : Except Fault Octets :=
  match skipBlanks octets with
  | [] => .error (.onNext .endOfList [])
  | octet :: rest =>
    if octet = 0x5D then .ok rest
    else if octet = 0x2C then
      let later := skipBlanks rest
      .error (.onNext
        (if later.head? = some 0x5D then .trailingComma else .trailingCharacters) later)
    else .error (.onNext .trailingCharacters (octet :: rest))

theorem length_le_of_scanListEnd {octets rest : Octets}
    (scanned : scanListEnd octets = .ok rest) : rest.length ≤ octets.length := by
  unfold scanListEnd at scanned
  have blanks := length_skipBlanks_le octets
  split at scanned
  · simp at scanned
  · rename_i octet after found
    simp only [found, List.length_cons] at blanks
    repeat' split at scanned
    all_goals simp only [reduceCtorEq, Except.ok.injEq] at scanned
    rw [← scanned]
    omega

/-- Reads the name of a member of an object, the first one or a later one, up to
its closing quote; without one, the octets after the closing bracket. -/
def scanName (first : Bool) (octets : Octets) :
    Except Fault (Option String × Octets) :=
  match skipBlanks octets with
  | [] => .error (.onNext .endOfObject [])
  | octet :: rest =>
    if octet = 0x7D then .ok (none, rest)
    else if first then
      if octet = 0x22 then
        match scanText rest with
        | .error fault => .error fault
        | .ok (name, rest) => .ok (some name, rest)
      else .error (.onNext .keyMustBeText (octet :: rest))
    else if octet = 0x2C then
      match skipBlanks rest with
      | [] => .error (.onNext .endOfValue [])
      | next :: rest =>
        if next = 0x22 then
          match scanText rest with
          | .error fault => .error fault
          | .ok (name, rest) => .ok (some name, rest)
        else if next = 0x7D then .error (.onNext .trailingComma (next :: rest))
        else .error (.onNext .keyMustBeText (next :: rest))
    else .error (.onNext .expectedObjectEnd (octet :: rest))

theorem length_lt_of_scanName {first : Bool} {octets rest : Octets}
    {name : Option String} (scanned : scanName first octets = .ok (name, rest)) :
    rest.length < octets.length := by
  unfold scanName at scanned
  have blanks := length_skipBlanks_le octets
  split at scanned
  · simp at scanned
  · rename_i octet after found
    simp only [found, List.length_cons] at blanks
    have laterBlanks := length_skipBlanks_le after
    repeat' split at scanned
    all_goals
      simp only [reduceCtorEq, Except.ok.injEq, Prod.mk.injEq] at scanned
    · rw [← scanned.2]
      omega
    · rename_i text
      have := length_lt_of_scanText text
      rw [← scanned.2]
      omega
    · rename_i later _ _ _ _ text
      have := length_lt_of_scanText text
      simp only [later, List.length_cons] at laterBlanks
      rw [← scanned.2]
      omega

def scanColon (octets : Octets) : Except Fault Octets :=
  match skipBlanks octets with
  | [] => .error (.onNext .endOfObject [])
  | octet :: rest =>
    if octet = 0x3A then .ok rest
    else .error (.onNext .expectedColon (octet :: rest))

theorem length_lt_of_scanColon {octets rest : Octets}
    (scanned : scanColon octets = .ok rest) : rest.length < octets.length := by
  unfold scanColon at scanned
  have blanks := length_skipBlanks_le octets
  split at scanned
  · simp at scanned
  · rename_i octet after found
    simp only [found, List.length_cons] at blanks
    split at scanned
    · simp only [Except.ok.injEq] at scanned
      rw [← scanned]
      omega
    · simp at scanned

def readItems {α : Type} (reader : Reader α) (first : Bool) (octets : Octets) :
    Except Fault (List α × Octets) :=
  match _ : scanItem first octets with
  | .error fault => .error fault
  | .ok (false, rest) => .ok ([], rest)
  | .ok (true, rest) =>
    match _ : reader.run rest with
    | .error fault => .error fault
    | .ok (item, rest) =>
      match readItems reader false rest with
      | .error fault => .error fault
      | .ok (items, rest) => .ok (item :: items, rest)
termination_by octets.length
decreasing_by
  have := length_le_of_scanItem (by assumption)
  have := reader.shrinks (by assumption)
  omega

theorem length_le_of_readItems {α : Type} {reader : Reader α} {first : Bool}
    {octets rest : Octets} {items : List α}
    (read : readItems reader first octets = .ok (items, rest)) :
    rest.length ≤ octets.length := by
  fun_induction readItems reader first octets generalizing items with
  | case1 => simp at read
  | case2 first octets after scanned =>
    simp only [Except.ok.injEq, Prod.mk.injEq] at read
    rw [← read.2]
    exact length_le_of_scanItem scanned
  | case3 => simp at read
  | case4 => simp at read
  | case5 first octets after scanned item left inner items' last more ih =>
    simp only [Except.ok.injEq, Prod.mk.injEq] at read
    obtain ⟨_, rfl⟩ := read
    have := length_le_of_scanItem scanned
    have := reader.shrinks inner
    have := ih more
    omega

/-- Reads the members of an object of values of one type after its opening bracket;
of several values under a name the last stays. -/
def readEntries {α : Type} (reader : Reader α) (first : Bool)
    (entries : Dictionary α) (octets : Octets) : Except Fault (Dictionary α × Octets) :=
  match _ : scanName first octets with
  | .error fault => .error fault
  | .ok (none, rest) => .ok (entries, rest)
  | .ok (some name, rest) =>
    match _ : scanColon rest with
    | .error fault => .error fault
    | .ok rest =>
      match _ : reader.run rest with
      | .error fault => .error fault
      | .ok (value, rest) => readEntries reader false (entries.insert name value) rest
termination_by octets.length
decreasing_by
  have := length_lt_of_scanName (by assumption)
  have := length_lt_of_scanColon (by assumption)
  have := reader.shrinks (by assumption)
  omega

theorem length_le_of_readEntries {α : Type} {reader : Reader α} {first : Bool}
    {entries found : Dictionary α} {octets rest : Octets}
    (read : readEntries reader first entries octets = .ok (found, rest)) :
    rest.length ≤ octets.length := by
  fun_induction readEntries reader first entries octets with
  | case1 => simp at read
  | case2 first entries octets after scanned =>
    simp only [Except.ok.injEq, Prod.mk.injEq] at read
    have := length_lt_of_scanName scanned
    rw [← read.2]
    omega
  | case3 => simp at read
  | case4 => simp at read
  | case5 first entries octets name after scanned colon coloned value left inner ih =>
    have := length_lt_of_scanName scanned
    have := length_lt_of_scanColon coloned
    have := reader.shrinks inner
    have := ih read
    omega

/-- Reads what stands after an opening bracket of one form. -/
def readBracketed {α : Type} (kind : Kind) (bracket : UInt8)
    (inside : Octets → Except Fault (α × Octets)) (octets : Octets) :
    Except Fault (α × Octets) :=
  match skipBlanks octets with
  | [] => .error (.onNext .endOfValue [])
  | first :: rest =>
    if first = bracket then inside rest else .error (mismatch kind first rest)

private theorem length_lt_of_readBracketed {α : Type} {kind : Kind} {bracket : UInt8}
    {inside : Octets → Except Fault (α × Octets)}
    (inside_le : ∀ {octets rest : Octets} {value : α},
      inside octets = .ok (value, rest) → rest.length ≤ octets.length)
    {octets rest : Octets} {value : α}
    (read : readBracketed kind bracket inside octets = .ok (value, rest)) :
    rest.length < octets.length := by
  unfold readBracketed at read
  have blanks := length_skipBlanks_le octets
  split at read
  · simp at read
  · rename_i first after found
    simp only [found, List.length_cons] at blanks
    split at read
    · have := inside_le read
      omega
    · simp at read

namespace Reader

variable {α : Type}

def list (reader : Reader α) : Reader (List α) :=
  ⟨readBracketed .sequence 0x5B (readItems reader true),
    length_lt_of_readBracketed length_le_of_readItems⟩

def dictionary (reader : Reader α) : Reader (Dictionary α) :=
  ⟨readBracketed .map 0x7B (readEntries reader true .empty),
    length_lt_of_readBracketed length_le_of_readEntries⟩

/-- The value of a whole document: nothing but blanks may follow it. -/
def decode (reader : Reader α) (document : Octets) : Except DecodeError α :=
  match reader.run document with
  | .error fault => .error (fault.place document)
  | .ok (value, rest) =>
    match skipBlanks rest with
    | [] => .ok value
    | left => .error ((Fault.onNext .trailingCharacters left).place document)

end Reader

end Json

end SignIn
