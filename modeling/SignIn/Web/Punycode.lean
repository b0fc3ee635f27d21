/-!
# Names in ASCII letters

A label of a host name with characters beyond ASCII is written with ASCII letters
only: first its ASCII characters, then a number for each further character that says
where it is put in.  The numbers have digits `a` to `z` and `0` to `9` with a place
value that adapts to the numbers before.
-/

namespace SignIn

namespace Punycode

def digit (value : Nat) : Char :=
  if value < 26 then Char.ofNat (0x61 + value) else Char.ofNat (0x30 + value - 26)

def digitValue? (character : Char) : Option Nat :=
  let code := character.toNat
  if 0x61 ≤ code && code ≤ 0x7A then some (code - 0x61)
  else if 0x41 ≤ code && code ≤ 0x5A then some (code - 0x41)
  else if 0x30 ≤ code && code ≤ 0x39 then some (code - 0x30 + 26)
  else none

/-- Divides a distance down to where thirty-five times it fits, counting the steps. -/
def settle (distance steps : Nat) : Nat :=
  if distance ≤ 455 then steps * 36 + 36 * distance / (distance + 38)
  else settle (distance / 35) (steps + 1)
termination_by distance

/-- The bias for the next number after one number among a count of characters. -/
def adapt (number count : Nat) (first : Bool) : Nat :=
  let halved := if first then number / 700 else number / 2
  settle (halved + halved / count) 0

/-- The least value of the digit at a place. -/
def threshold (place bias : Nat) : Nat :=
  max 1 (min 26 (place - bias))

/-- A number written with the places from a given one on. -/
def writeNumber (number place bias : Nat) : List Char :=
  let least := threshold place bias
  if number < least then [digit number]
  else
    digit (least + (number - least) % (36 - least)) ::
      writeNumber ((number - least) / (36 - least)) (place + 36) bias
termination_by number
decreasing_by
  have least_pos : 1 ≤ threshold place bias := by
    unfold threshold
    omega
  exact Nat.lt_of_le_of_lt (Nat.div_le_self _ _) (by omega)

/-- What has been written so far while characters of one code are put in. -/
structure Writer where
  delta : Nat
  bias : Nat
  handled : Nat
  written : List Char

/-- Goes through the label once for one code point. -/
def Writer.pass (writer : Writer) (basic code : Nat) (label : List Char) : Writer :=
  label.foldl (fun writer character =>
    if character.toNat < code then { writer with delta := writer.delta + 1 }
    else if character.toNat = code then
      { delta := 0
        bias := adapt writer.delta (writer.handled + 1) (writer.handled = basic)
        handled := writer.handled + 1
        written := writer.written ++ writeNumber writer.delta 36 writer.bias }
    else writer) writer

/-- A label written in ASCII, without the mark that says so. -/
def encode (label : List Char) : List Char :=
  let plain := label.filter (·.toNat < 0x80)
  let codes := ((label.map Char.toNat).filter (0x80 ≤ ·)).mergeSort.eraseDups
  let start : Writer :=
    ⟨0, 72, plain.length, if plain.isEmpty then [] else plain ++ ['-']⟩
  let final := codes.foldl (fun (state : Writer × Nat) code =>
    let (writer, next) := state
    let moved := { writer with
      delta := writer.delta + (code - next) * (writer.handled + 1) }
    let passed := moved.pass plain.length code label
    ({ passed with delta := passed.delta + 1 }, code + 1)) (start, 0x80)
  final.1.written

/-- The number at the front of a written label, and what follows it. -/
def readNumber? : (place bias weight number : Nat) → List Char →
    Option (Nat × List Char)
  | _, _, _, _, [] => none
  | place, bias, weight, number, character :: rest => do
    let value ← digitValue? character
    let number := number + value * weight
    let least := threshold place bias
    if value < least then some (number, rest)
    else if UInt32.size ≤ number then none
    else readNumber? (place + 36) bias (weight * (36 - least)) number rest

/-- Puts in the characters that the numbers of a written label stand for. -/
def insertAll? (fuel : Nat) (label : List Char) (code index bias : Nat)
    (written : List Char) : Option (List Char) :=
  match fuel, written with
  | _, [] => some label
  | 0, _ => none
  | fuel + 1, written => do
    let (number, rest) ← readNumber? 36 bias 1 0 written
    let count := label.length + 1
    let position := index + number
    let code := code + position / count
    if 0x10FFFF < code || (0xD800 ≤ code && code ≤ 0xDFFF) then none
    else
      let place := position % count
      insertAll? fuel (label.take place ++ [Char.ofNat code] ++ label.drop place)
        code (place + 1) (adapt number count (index = 0)) rest

/-- The label that an ASCII label stands for, if it is well written. -/
def decode? (written : List Char) : Option (List Char) :=
  let reversed := written.reverse
  let tail := (reversed.takeWhile (· != '-')).reverse
  let plain := ((reversed.dropWhile (· != '-')).drop 1).reverse
  insertAll? written.length plain 0x80 0 72 tail

end Punycode

end SignIn
