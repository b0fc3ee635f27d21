import SignIn.Json.Reader

/-!
# Records

A record is written as an object with named members or as a list of its fields in
their order.  In an object members come in any order, members with other names are
skipped, and no field may come twice; in a list fields may be left out at the end.
Which fields may be missing is for the record to say once everything is read.
-/

namespace SignIn

namespace Json

/-- A field of a record that is being gathered: its name, whether the gathered
record has it already, and how it is read. -/
structure Field (draft : Type) where
  name : String
  filled : draft → Bool
  reader : Reader (draft → draft)

/-- A kind of record: its name, its fields in order, the record with no field yet,
and the finished record or the name of the first field that it lacks. -/
structure Shape (draft value : Type) where
  name : String
  fields : List (Field draft)
  blank : draft
  finish : draft → Except String value

/-- The value of a field that must be there, or the field's name. -/
def required {α : Type} (name : String) : Option α → Except String α
  | some value => .ok value
  | none => .error name

variable {draft value : Type}

/-- The octets after which a second value for a field is reported: the reading of
the object stops behind the name and behind a bracket that closes the object. -/
def duplicatePoint (octets : Octets) : Octets :=
  match skipBlanks octets with
  | 0x7D :: rest => rest
  | rest => rest

/-- Reads the members of a record after the opening bracket of an object. -/
def readMembers (fields : List (Field draft)) (first : Bool) (gathered : draft)
    (octets : Octets) : Except Fault (draft × Octets) :=
  match _ : scanName first octets with
  | .error fault => .error fault
  | .ok (none, rest) => .ok (gathered, rest)
  | .ok (some name, rest) =>
    match fields.find? (·.name == name) with
    | none =>
      match _ : scanColon rest with
      | .error fault => .error fault
      | .ok rest =>
        match _ : skipValue rest with
        | .error fault => .error fault
        | .ok rest => readMembers fields false gathered rest
    | some field =>
      if field.filled gathered then
        .error (.before (.duplicateField name) (duplicatePoint rest))
      else
        match _ : scanColon rest with
        | .error fault => .error fault
        | .ok rest =>
          match _ : field.reader.run rest with
          | .error fault => .error fault
          | .ok (update, rest) => readMembers fields false (update gathered) rest
termination_by octets.length
decreasing_by
  · have := length_lt_of_scanName (by assumption)
    have := length_lt_of_scanColon (by assumption)
    have := length_lt_of_skipValue (by assumption)
    omega
  · have := length_lt_of_scanName (by assumption)
    have := length_lt_of_scanColon (by assumption)
    have := field.reader.shrinks (by assumption)
    omega

theorem length_le_of_readMembers {fields : List (Field draft)} {first : Bool}
    {gathered finished : draft} {octets rest : Octets}
    (read : readMembers fields first gathered octets = .ok (finished, rest)) :
    rest.length ≤ octets.length := by
  fun_induction readMembers fields first gathered octets with
  | case1 => simp at read
  | case2 first gathered octets after scanned =>
    simp only [Except.ok.injEq, Prod.mk.injEq] at read
    have := length_lt_of_scanName scanned
    rw [← read.2]
    omega
  | case3 => simp at read
  | case4 => simp at read
  | case5 first gathered octets name after scanned unknown colon coloned left skipped ih =>
    have := length_lt_of_scanName scanned
    have := length_lt_of_scanColon coloned
    have := length_lt_of_skipValue skipped
    have := ih read
    omega
  | case6 => simp at read
  | case7 => simp at read
  | case8 => simp at read
  | case9 first gathered octets name after scanned field known free colon coloned update
      left inner ih =>
    have := length_lt_of_scanName scanned
    have := length_lt_of_scanColon coloned
    have := field.reader.shrinks inner
    have := ih read
    omega

/-- Reads the fields of a record after the opening bracket of a list.  The list may
end before every field has a value, but not go on after that. -/
def readFields (fields : List (Field draft)) (first : Bool) (gathered : draft)
    (octets : Octets) : Except Fault (draft × Octets) :=
  match fields with
  | [] =>
    match scanListEnd octets with
    | .error fault => .error fault
    | .ok rest => .ok (gathered, rest)
  | field :: fields =>
    match scanItem first octets with
    | .error fault => .error fault
    | .ok (false, rest) => .ok (gathered, rest)
    | .ok (true, rest) =>
      match field.reader.run rest with
      | .error fault => .error fault
      | .ok (update, rest) => readFields fields false (update gathered) rest

theorem length_le_of_readFields {fields : List (Field draft)} {first : Bool}
    {gathered finished : draft} {octets rest : Octets}
    (read : readFields fields first gathered octets = .ok (finished, rest)) :
    rest.length ≤ octets.length := by
  induction fields generalizing first gathered octets with
  | nil =>
    simp only [readFields] at read
    split at read
    · simp at read
    · rename_i ended
      simp only [Except.ok.injEq, Prod.mk.injEq] at read
      rw [← read.2]
      exact length_le_of_scanListEnd ended
  | cons field fields ih =>
    simp only [readFields] at read
    split at read
    · simp at read
    · rename_i scanned
      simp only [Except.ok.injEq, Prod.mk.injEq] at read
      rw [← read.2]
      exact length_le_of_scanItem scanned
    · rename_i scanned
      split at read
      · simp at read
      · rename_i inner
        have := length_le_of_scanItem scanned
        have := field.reader.shrinks inner
        have := ih read
        omega

namespace Shape

def read (shape : Shape draft value) (octets : Octets) :
    Except Fault (value × Octets) :=
  match skipBlanks octets with
  | [] => .error (.onNext .endOfValue [])
  | first :: rest =>
    if first = 0x7B then
      match readMembers shape.fields true shape.blank rest with
      | .error fault => .error fault
      | .ok (gathered, left) =>
        match shape.finish gathered with
        | .ok value => .ok (value, left)
        | .error name => .error (.before (.missingField name) left)
    else if first = 0x5B then
      match readFields shape.fields true shape.blank rest with
      | .error fault => .error fault
      | .ok (gathered, left) =>
        match shape.finish gathered with
        | .ok value => .ok (value, left)
        | .error name =>
          .error (.before (.wrongLength (shape.fields.findIdx (·.name == name))
            shape.name shape.fields.length) left)
    else
      .error (mismatch (.record shape.name) first rest)

private theorem length_lt_of_read {shape : Shape draft value} {octets rest : Octets}
    {record : value} (read : shape.read octets = .ok (record, rest)) :
    rest.length < octets.length := by
  unfold Shape.read at read
  have blanks := length_skipBlanks_le octets
  split at read
  · simp at read
  · rename_i first after found
    simp only [found, List.length_cons] at blanks
    repeat' split at read
    all_goals
      simp only [reduceCtorEq, Except.ok.injEq, Prod.mk.injEq] at read
    · rename_i members _ _ _
      have := length_le_of_readMembers members
      rw [← read.2]
      omega
    · rename_i members _ _ _
      have := length_le_of_readFields members
      rw [← read.2]
      omega

/-- The reader of a kind of record. -/
def reader (shape : Shape draft value) : Reader value :=
  ⟨shape.read, length_lt_of_read⟩

end Shape

end Json

end SignIn
