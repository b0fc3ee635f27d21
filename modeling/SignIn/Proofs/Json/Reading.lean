import SignIn.Proofs.Json.Text
import SignIn.Proofs.Json.Natural
import SignIn.Proofs.Dictionary
import SignIn.Json.Record

/-!
# Reading back written forms

A reader reads a written form back if it takes the form off the front of a document,
after any blanks and whatever follows, and yields the value that was written.  The forms
of texts, numbers and truth values are read back, and so are lists, dictionaries and
records whose parts are.  A form that nobody asked for is skipped in the same way.
-/

namespace SignIn

namespace Json

open Utf8

/-- Nothing but blanks. -/
def Blank (octets : Octets) : Prop :=
  ∀ octet ∈ octets, isBlank octet = true

theorem blank_nil : Blank [] := by
  intro octet member
  cases member

theorem continuesNumber_of_isBlank {octet : UInt8} (blank : isBlank octet = true) :
    continuesNumber octet = false := by
  simp only [isBlank, Bool.or_eq_true, decide_eq_true_eq] at blank
  rcases blank with ((rfl | rfl) | rfl) | rfl <;> rfl

theorem ends_append {blanks rest : Octets} (blank : Blank blanks) (ends : Ends rest) :
    Ends (blanks ++ rest) := by
  cases blanks with
  | nil => exact ends
  | cons octet blanks =>
      exact ends_cons (continuesNumber_of_isBlank (blank octet (by simp))) _

theorem skipBlanks_blank_append {blanks rest : Octets} {octet : UInt8}
    (blank : Blank blanks) (visible : isBlank octet = false) :
    skipBlanks (blanks ++ octet :: rest) = octet :: rest := by
  rw [skipBlanks_append blank, skipBlanks_cons_of_not visible]

/-- A written form is skipped as one value, whatever brackets are open around it. -/
structure Skips (text : String) : Prop where
  /-- The form begins with an octet that is neither blank nor ends a list. -/
  begins : ∃ first rest, encode text = first :: rest ∧ isBlank first = false ∧ first ≠ 0x5D
  run : ∀ (brackets : List Bracket) {blanks rest : Octets}, Blank blanks → Ends rest →
    skipInside brackets (blanks ++ (encode text ++ rest)) = skipAfter brackets true rest

namespace Reader

variable {α β : Type}

/-- A reader reads a written form back as a value. -/
structure Reads (reader : Reader α) (text : String) (value : α) : Prop where
  /-- The form begins with an octet that is neither blank nor ends a list. -/
  begins : ∃ first rest, encode text = first :: rest ∧ isBlank first = false ∧ first ≠ 0x5D
  run : ∀ {blanks rest : Octets}, Blank blanks → Ends rest →
    reader.run (blanks ++ (encode text ++ rest)) = .ok (value, rest)

namespace Reads

theorem decode {reader : Reader α} {text : String} {value : α}
    (reads : reader.Reads text value) : reader.decode (encode text) = .ok value := by
  have ran := reads.run blank_nil ends_nil
  rw [List.nil_append, List.append_nil] at ran
  rw [Reader.decode, ran]
  rfl

theorem map {reader : Reader α} {text : String} {value : α} (change : α → β)
    (reads : reader.Reads text value) : (reader.map change).Reads text (change value) where
  begins := reads.begins
  run blank ends := by
    simp only [Reader.map, reads.run blank ends]

theorem text (value : String) : Reader.text.Reads (printText value) value where
  begins := ⟨0x22, _, encode_printText value, rfl, by decide⟩
  run {blanks rest} blank _ := by
    show readText _ = _
    rw [encode_printText_append, readText, skipBlanks_blank_append blank rfl]
    simp only [if_true, scanText_escaped]

theorem exists_encode_printNatural (value : Nat) :
    ∃ first rest, encode (printNatural value) = first :: rest ∧ isDigit first = true := by
  obtain ⟨first, digits, written⟩ : ∃ first digits, Nat.toDigits 10 value = first :: digits :=
    List.exists_cons_of_ne_nil Nat.toDigits_ne_nil
  have decimal : first.isDigit = true :=
    Nat.isDigit_of_mem_toDigits (by decide) (by decide) (written ▸ List.mem_cons_self)
  refine ⟨digitOctet first, digits.map digitOctet, ?_, isDigit_digitOctet decimal⟩
  rw [encode_printNatural, written, List.map_cons]

private theorem visible_of_isDigit {octet : UInt8} (digit : isDigit octet = true) :
    isBlank octet = false ∧ octet ≠ 0x5D ∧ octet ≠ 0x2D := by
  simp only [isDigit, Bool.and_eq_true, decide_eq_true_eq, UInt8.le_iff_toNat_le] at digit
  simp only [isBlank, Bool.or_eq_false_iff, decide_eq_false_iff_not, ne_eq,
    ← UInt8.toNat_inj]
  simp at digit ⊢
  omega

theorem readBelow_printNatural (kind : Kind) {bound value : Nat} (small : value < bound)
    (fits : bound ≤ UInt64.size) {blanks rest : Octets} (blank : Blank blanks)
    (ends : Ends rest) :
    readBelow kind bound (blanks ++ (encode (printNatural value) ++ rest)) =
      .ok (value, rest) := by
  obtain ⟨first, digits, written, digit⟩ := exists_encode_printNatural value
  obtain ⟨visible, _, notMinus⟩ := visible_of_isDigit digit
  have scanned := scanNumber_printNatural (Nat.lt_of_lt_of_le small fits) ends
  rw [written, List.cons_append] at scanned ⊢
  rw [readBelow, skipBlanks_blank_append blank visible]
  simp only [if_neg notMinus, if_pos digit, scanned, Number.below, if_pos small]

private theorem begins_printNatural (value : Nat) :
    ∃ first rest, encode (printNatural value) = first :: rest ∧ isBlank first = false ∧
      first ≠ 0x5D := by
  obtain ⟨first, rest, written, digit⟩ := exists_encode_printNatural value
  obtain ⟨visible, notEnd, _⟩ := visible_of_isDigit digit
  exact ⟨first, rest, written, visible, notEnd⟩

theorem word64 (value : UInt64) :
    Reader.word64.Reads (printNatural value.toNat) value where
  begins := begins_printNatural value.toNat
  run blank ends := by
    have read := readBelow_printNatural .word64 value.toNat_lt_size (Nat.le_refl _) blank ends
    simp only [Reader.word64, Reader.map, read, UInt64.ofNat_toNat]

theorem word32 (value : UInt32) :
    Reader.word32.Reads (printNatural value.toNat) value where
  begins := begins_printNatural value.toNat
  run blank ends := by
    have read := readBelow_printNatural .word32 value.toNat_lt_size (by decide) blank ends
    simp only [Reader.word32, Reader.map, read, UInt32.ofNat_toNat]

theorem boolean (value : Bool) : Reader.boolean.Reads (printBoolean value) value := by
  have wordTrue : encode "true" = [0x74, 0x72, 0x75, 0x65] := rfl
  have wordFalse : encode "false" = [0x66, 0x61, 0x6C, 0x73, 0x65] := rfl
  cases value with
  | true =>
      refine ⟨⟨0x74, _, wordTrue, rfl, by decide⟩, fun blank _ => ?_⟩
      show readBoolean (_ ++ (encode "true" ++ _)) = _
      rw [wordTrue, readBoolean, List.cons_append, skipBlanks_blank_append blank rfl]
      rfl
  | false =>
      refine ⟨⟨0x66, _, wordFalse, rfl, by decide⟩, fun blank _ => ?_⟩
      show readBoolean (_ ++ (encode "false" ++ _)) = _
      rw [wordFalse, readBoolean, List.cons_append, skipBlanks_blank_append blank rfl]
      rfl

/-- What may be missing is read back as present unless its form begins like `null`. -/
theorem optional {reader : Reader α} {text : String} {value : α}
    (reads : reader.Reads text value) (present : (encode text).head? ≠ some 0x6E) :
    (Reader.optional reader).Reads text (some value) where
  begins := reads.begins
  run {blanks rest} blank ends := by
    obtain ⟨first, octets, written, visible, _⟩ := reads.begins
    have read := reads.run blank ends
    rw [written, List.head?_cons] at present
    rw [written, List.cons_append] at read ⊢
    show readOptional reader _ = _
    rw [readOptional, skipBlanks_blank_append blank visible]
    split
    · rename_i same
      exact absurd (congrArg some (List.cons.inj same).1) present
    · rw [read]

end Reads

end Reader

end Json

end SignIn
