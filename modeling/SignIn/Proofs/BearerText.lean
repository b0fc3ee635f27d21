import SignIn.Proofs.MockServer.Requests
import SignIn.Proofs.TokenLink

/-!
# Texts of bearers

A bearer is written with letters, digits and some signs, and may be padded with equality signs.
It fits a header as it stands.  Read as a link it gives its own front the rest of the padding
as a value: a token is found there only if the front is the word for it, and it is no more than
padding.
-/

namespace SignIn

open Utf8

def isBearerCharacter (character : Char) : Bool :=
  character.isAlphanum || "-._~+/".toList.contains character

/-- A text is a bearer: some characters of bearers, of which the first is no hyphen, and padding
behind them. -/
structure IsBearer (text : String) (front : List Char) (padding : Nat) : Prop where
  written : text.toList = front ++ List.replicate padding '='
  nonempty : front ≠ []
  characters : ∀ character ∈ front, isBearerCharacter character = true
  noHyphen : front.head? ≠ some '-'

theorem of_isBearerCharacter {character : Char} (bears : isBearerCharacter character = true) :
    0x20 < character.toNat ∧ character.toNat < 0x7F ∧
      character ∉ ['=', '?', '#', '&', '%'] := by
  rcases Bool.or_eq_true_iff.mp bears with word | sign
  · have range := toNat_of_isAlphanum word
    refine ⟨by omega, by omega, fun member => ?_⟩
    simp only [List.mem_cons, List.not_mem_nil, or_false] at member
    rcases member with rfl | rfl | rfl | rfl | rfl <;> simp at range
  · have signs : "-._~+/".toList.all (fun sign => 0x20 < sign.toNat && sign.toNat < 0x7F &&
        !(['=', '?', '#', '&', '%'].contains sign)) = true := by decide
    have found := List.all_eq_true.mp signs character (List.contains_iff_mem.mp sign)
    simp only [Bool.and_eq_true, decide_eq_true_eq, Bool.not_eq_true',
      List.contains_eq_mem, decide_eq_false_iff_not] at found
    exact ⟨found.1.1, found.1.2, found.2⟩

def spaced (character : Char) : Char :=
  if character = '+' then ' ' else character

theorem spaced_of_ascii {character : Char} (ascii : character.toNat < 0x80) :
    Form.spaced (asciiOctet character) = asciiOctet (spaced character) ∧
      (spaced character).toNat < 0x80 := by
  have all : ∀ code < 0x80, Form.spaced (asciiOctet (Char.ofNat code)) =
      asciiOctet (spaced (Char.ofNat code)) ∧ (spaced (Char.ofNat code)).toNat < 0x80 := by decide
  have here := all character.toNat ascii
  rwa [Char.ofNat_toNat] at here

theorem decodePiece_of_ascii {piece : List Char}
    (ascii : ∀ character ∈ piece, character.toNat < 0x80) (unescaped : '%' ∉ piece) :
    Form.decodePiece (encodeChars piece) = String.ofList (piece.map spaced) := by
  have mapped : ∀ character ∈ piece.map spaced, character.toNat < 0x80 := by
    intro character member
    obtain ⟨source, inside, rfl⟩ := List.mem_map.mp member
    exact (spaced_of_ascii (ascii source inside)).2
  have octets : (encodeChars piece).map Form.spaced = encodeChars (piece.map spaced) := by
    rw [encodeChars_of_ascii ascii, encodeChars_of_ascii mapped, List.map_map, List.map_map]
    exact List.map_congr_left fun character member => (spaced_of_ascii (ascii character member)).1
  have absent : 0x25 ∉ encodeChars (piece.map spaced) := by
    intro percent
    obtain ⟨source, inside, same⟩ :=
      List.mem_map.mp (mem_of_asciiOctet_mem '%' (by decide) percent)
    unfold spaced at same
    split at same
    · contradiction
    · exact unescaped (same ▸ inside)
  rw [Form.decodePiece_eq, octets, Percent.decode_of_not_mem absent, ← encode_ofList,
    decodeLossy_encode]

theorem map_spaced_eq_iff {front word : List Char} (solid : ' ' ∉ word) (noPlus : '+' ∉ word) :
    front.map spaced = word ↔ front = word := by
  have kept {text : List Char} (absent : '+' ∉ text) : text.map spaced = text := by
    rw [List.map_congr_left, List.map_id]
    intro character member
    have other : character ≠ '+' := by
      rintro rfl
      exact absent member
    exact if_neg other
  constructor
  · intro same
    have absent : '+' ∉ front := fun member =>
      solid (same ▸ List.mem_map.mpr ⟨'+', member, rfl⟩)
    rwa [kept absent] at same
  · rintro rfl
    exact kept noPlus

namespace IsBearer

variable {text : String} {front : List Char} {padding : Nat}

theorem of_mem (bearer : IsBearer text front padding) {character : Char}
    (member : character ∈ text.toList) :
    0x20 < character.toNat ∧ character.toNat < 0x7F ∧ character ∉ ['?', '#', '&', '%'] := by
  rw [bearer.written] at member
  rcases List.mem_append.mp member with inFront | padded
  · obtain ⟨low, high, apart⟩ := of_isBearerCharacter (bearer.characters character inFront)
    exact ⟨low, high, fun listed => apart (List.mem_cons_of_mem '=' listed)⟩
  · obtain rfl := List.eq_of_mem_replicate padded
    decide

theorem not_mem_front (bearer : IsBearer text front padding) {mark : Char}
    (listed : mark ∈ ['=', '?', '#', '&', '%']) : mark ∉ front := fun member =>
  (of_isBearerCharacter (bearer.characters mark member)).2.2 listed

theorem not_mem (bearer : IsBearer text front padding) {mark : Char}
    (listed : mark ∈ ['?', '#', '&', '%']) : mark ∉ text.toList := fun member =>
  (bearer.of_mem member).2.2 listed

theorem head?_ne_hyphen (bearer : IsBearer text front padding) : text.toList.head? ≠ some '-' := by
  rw [bearer.written, List.head?_append_of_ne_nil front bearer.nonempty]
  exact bearer.noHyphen

theorem isPrintableToken (bearer : IsBearer text front padding) :
    isPrintableToken text = true := by
  have some : text ≠ "" := by
    rintro rfl
    have written := bearer.written
    rw [String.toList_empty, eq_comm, List.append_eq_nil_iff] at written
    exact bearer.nonempty written.1
  simp only [SignIn.isPrintableToken, Bool.and_eq_true, bne_iff_ne, List.all_eq_true,
    decide_eq_true_eq]
  refine ⟨⟨some, fun last => ?_⟩, fun character member => ?_⟩
  · have visible := (bearer.of_mem (List.mem_of_getLast? last)).1
    contradiction
  · obtain ⟨low, high, -⟩ := bearer.of_mem member
    exact ⟨by omega, high⟩

/-- Only padding makes a bearer look like a link. -/
theorem looksLikeLink_iff (bearer : IsBearer text front padding) :
    (text.toList.any fun character => character = '?' || character = '=') = true ↔
      0 < padding := by
  have noMark : '?' ∉ text.toList := bearer.not_mem (by decide)
  have assigns : '=' ∈ text.toList ↔ 0 < padding := by
    rw [bearer.written, List.mem_append]
    have inFront : '=' ∉ front := bearer.not_mem_front (by decide)
    simp [inFront, Nat.pos_iff_ne_zero]
  rw [List.any_eq_true, ← assigns]
  constructor
  · rintro ⟨character, member, mark⟩
    simp only [Bool.or_eq_true, decide_eq_true_eq] at mark
    rcases mark with rfl | rfl
    · exact absurd member noMark
    · exact member
  · intro member
    exact ⟨'=', member, by decide⟩

theorem decodePair_of_padded (bearer : IsBearer text front (padding + 1)) :
    TokenLink.key text.toList = String.ofList (front.map spaced) ∧
      TokenLink.value text.toList = String.ofList (List.replicate padding '=') := by
  have octets : encodeChars text.toList =
      encodeChars front ++ 0x3D :: encodeChars (List.replicate padding '=') := by
    rw [bearer.written, List.replicate_succ, encodeChars_append]
    rfl
  have kept : ∀ octet ∈ encodeChars front, (octet != 0x3D) = true := by
    intro octet member
    rw [bne_iff_ne]
    rintro rfl
    exact bearer.not_mem_front (by decide) (mem_of_asciiOctet_mem '=' (by decide) member)
  have ascii : ∀ character ∈ front, character.toNat < 0x80 := fun character member => by
    have := (of_isBearerCharacter (bearer.characters character member)).2.1
    omega
  have padded : Form.decodePiece (encodeChars (List.replicate padding '=')) =
      String.ofList (List.replicate padding '=') := by
    rw [decodePiece_of_ascii, List.map_replicate]
    · rfl
    · intro character member
      rw [List.eq_of_mem_replicate member]
      decide
    · intro member
      exact absurd (List.eq_of_mem_replicate member) (by decide)
  unfold TokenLink.key TokenLink.value
  rw [octets, Form.decodePair, List.takeWhile_append_of_pos kept,
    List.dropWhile_append_of_pos kept]
  simp [padded, decodePiece_of_ascii ascii (bearer.not_mem_front (by decide))]

/-- The token that is found in a padded bearer: none, or what is left of the padding behind the
word for a token. -/
theorem token?_of_padded (bearer : IsBearer text front (padding + 1)) :
    TokenLink.token? text =
      if front = "token".toList ∧ 0 < padding then
        some (String.ofList (List.replicate padding '='))
      else none := by
  obtain ⟨named, valued⟩ := bearer.decodePair_of_padded
  have visible : ∀ character ∈ text.toList, Trim.isBlank character = false := by
    intro character member
    obtain ⟨low, high, -⟩ := bearer.of_mem member
    simp only [Trim.isBlank, Bool.or_eq_false_iff, Bool.and_eq_false_iff, decide_eq_false_iff_not]
    omega
  have solid : text.toList ≠ [] := by
    rw [bearer.written]
    simp
  have trimmed : (Trim.blanks text).toList = text.toList := by
    have bare := @TokenLink.toList_blanks [] text.toList [] solid visible
    simpa using bare
  have assigns : '=' ∈ text.toList := by
    rw [bearer.written]
    simp
  have queried : TokenLink.querying text.toList = some text.toList := by
    have bare : TokenLink.HasQuery (text.toList ++ []) text.toList :=
      .bare (by simpa using bearer.not_mem (by decide)) (by simpa using assigns)
        (bearer.not_mem (by decide)) (.inl rfl)
    simpa using TokenLink.querying_of_hasQuery bare
  rw [TokenLink.token?_eq, trimmed, queried, Option.bind_some,
    TokenLink.firstToken?_single (bearer.not_mem (by decide)), named, valued]
  have word_iff : String.ofList (front.map spaced) = "token" ↔ front = "token".toList := by
    rw [← String.toList_inj, String.toList_ofList]
    exact map_spaced_eq_iff (by decide) (by decide)
  have left_iff : (String.ofList (List.replicate padding '=') != "") = true ↔ 0 < padding := by
    rw [bne_iff_ne, ← String.toList_inj.ne, String.toList_ofList, String.toList_empty]
    simp [Nat.pos_iff_ne_zero]
  by_cases word : front = "token".toList
  · rw [if_pos (word_iff.mpr word)]
    by_cases left : 0 < padding
    · rw [if_pos ⟨word, left⟩, Option.filter_some, if_pos (left_iff.mpr left)]
    · rw [if_neg fun both => left both.2, Option.filter_some,
        if_neg fun some => left (left_iff.mp some)]
  · rw [if_neg fun named => word (word_iff.mp named), if_neg fun both => word both.1]
    rfl

/-- What is found in a padded bearer is shorter than the bearer. -/
theorem token?_ne_self (bearer : IsBearer text front (padding + 1)) :
    TokenLink.token? text ≠ some text := by
  rw [bearer.token?_of_padded]
  split
  · intro same
    have short := congrArg (fun text => text.toList.length) (Option.some.inj same)
    have whole := congrArg List.length bearer.written
    simp only [String.toList_ofList, List.length_replicate, List.length_append] at short whole
    omega
  · exact nofun

end IsBearer

end SignIn
