import SignIn.Proofs.Text.Percent
import SignIn.Proofs.Web.Path
import Mathlib.Data.List.Flatten
import Mathlib.Data.List.TakeWhile

/-!
# Texts put into a path as they are

A text that is put behind a word of a path without being escaped may be taken apart, cut off
or resolved with its dots.  It is read as one segment that stands for it exactly if no
character of it is dropped or ends a segment, nothing of it looks like an escape, and it is no
dots.  What it loses otherwise can be read off its length: undoing escapes never adds octets,
so a segment that stands for the whole text has to be the whole text.
-/

namespace SignIn

namespace Url

open Utf8

/-- The octets that are escaped where some characters are special. -/
def escapes (special : String) (octet : UInt8) : Bool :=
  octet < 0x20 || 0x7E < octet || special.toList.contains (Char.ofNat octet.toNat)

theorem lt_of_not_escapes {special : String} {octet : UInt8}
    (kept : escapes special octet = false) : octet.toNat < 0x80 := by
  simp only [escapes, Bool.or_eq_false_iff, decide_eq_false_iff_not, UInt8.lt_iff_toNat_lt] at kept
  have high : ¬ 0x7E < octet.toNat := kept.1.2
  omega

theorem of_mem_escape {octet digit : UInt8} (member : digit ∈ Percent.escape octet) :
    digit.toNat < 0x80 ∧
      (Char.ofNat digit.toNat = '%' ∨ isPlain (Char.ofNat digit.toNat) = true) := by
  have all : ∀ code < 256, (Percent.escape (UInt8.ofNat code)).all (fun digit =>
      digit.toNat < 0x80 &&
        (Char.ofNat digit.toNat = '%' || isPlain (Char.ofNat digit.toNat))) = true := by
    decide +kernel
  have here := all octet.toNat octet.toNat_lt
  rw [UInt8.ofNat_toNat] at here
  simpa using List.all_eq_true.mp here digit member

/-- The octets of an escaped text are of ASCII, and each is of an escape or was there before. -/
theorem of_mem_encode {special : String} {octets : Octets} {octet : UInt8}
    (member : octet ∈ Percent.encode (escapes special) octets) :
    octet.toNat < 0x80 ∧ (octet ∈ octets ∨ Char.ofNat octet.toNat = '%' ∨
      isPlain (Char.ofNat octet.toNat) = true) := by
  obtain ⟨source, among, inside⟩ := List.mem_flatMap.mp member
  split at inside
  · obtain ⟨ascii, mark⟩ := of_mem_escape inside
    exact ⟨ascii, .inr mark⟩
  · rename_i kept
    obtain rfl := List.mem_singleton.mp inside
    exact ⟨lt_of_not_escapes (Bool.eq_false_iff.mpr kept), .inl among⟩

theorem asciiOctet_ofNat {octet : UInt8} (ascii : octet.toNat < 0x80) :
    (Char.ofNat octet.toNat).toNat = octet.toNat ∧
      asciiOctet (Char.ofNat octet.toNat) = octet := by
  have all : ∀ code < 0x80, (Char.ofNat code).toNat = code := by decide
  have code := all octet.toNat ascii
  exact ⟨code, by rw [asciiOctet, code, UInt8.ofNat_toNat]⟩

theorem encode_escape (special : String) (text : List Char) :
    encode (escape special text) = Percent.encode (escapes special) (encodeChars text) := by
  have written : escape special text = String.ofList
      ((Percent.encode (escapes special) (encodeChars text)).map fun octet =>
        Char.ofNat octet.toNat) := rfl
  rw [written, encode_ofList, encodeChars_of_ascii, List.map_map]
  · refine (List.map_congr_left fun octet member => ?_).trans (List.map_id _)
    exact (asciiOctet_ofNat (of_mem_encode member).1).2
  · intro character member
    obtain ⟨octet, inside, rfl⟩ := List.mem_map.mp member
    have ascii := (of_mem_encode inside).1
    rw [(asciiOctet_ofNat ascii).1]
    exact ascii

/-- Neither percent signs nor digits are escaped in a path, so that a segment stands for what
the text stands for as it is. -/
theorem decode_escape (text : List Char) :
    Percent.decode (encode (escape pathSpecial text)) = Percent.decode (encodeChars text) := by
  have digits : ∀ code < 256, (Percent.hexValue? (UInt8.ofNat code)).isSome = true →
      escapes pathSpecial (UInt8.ofNat code) = false := by
    decide +kernel
  rw [encode_escape]
  refine Percent.decode_encode (by decide +kernel) (fun digit value isDigit => ?_) _
  have kept := digits digit.toNat digit.toNat_lt
  rw [UInt8.ofNat_toNat] at kept
  exact kept (by rw [isDigit]; rfl)

theorem not_mem_escape {special : String} {text : List Char} {mark : Char}
    (notPercent : mark ≠ '%') (notPlain : isPlain mark = false) (absent : mark ∉ text) :
    mark ∉ (escape special text).toList := by
  intro member
  have written : (escape special text).toList =
      (Percent.encode (escapes special) (encodeChars text)).map fun octet =>
        Char.ofNat octet.toNat := String.toList_ofList
  rw [written] at member
  obtain ⟨octet, inside, rfl⟩ := List.mem_map.mp member
  obtain ⟨ascii, before | percent | plain⟩ := of_mem_encode inside
  · obtain ⟨code, same⟩ := asciiOctet_ofNat ascii
    rw [← same] at before
    exact absent (mem_of_asciiOctet_mem _ (by rwa [code]) before)
  · exact notPercent percent
  · rw [plain] at notPlain
    contradiction

def capitals : List Char → List (List Char)
  | [] => [[]]
  | mark :: marks => (capitals marks).flatMap fun rest =>
      if mark = 'e' then ['e' :: rest, 'E' :: rest] else [mark :: rest]

theorem eq_of_toLower {character mark : Char} (known : mark ∈ ".%2e".toList)
    (lower : character.toLower = mark) :
    character = mark ∨ (mark = 'e' ∧ character = 'E') := by
  have letters : ∀ code < 128, (Char.ofNat code).toLower ∈ ".%2e".toList →
      Char.ofNat code = (Char.ofNat code).toLower ∨
        ((Char.ofNat code).toLower = 'e' ∧ Char.ofNat code = 'E') := by decide
  by_cases small : character.toNat < 128
  · have found := letters character.toNat small
    rw [Char.ofNat_toNat, lower] at found
    exact found known
  · left
    unfold Char.toLower at lower
    split at lower
    · rename_i capital
      have bound : character.toNat ≤ 90 := capital.2
      omega
    · exact lower

theorem mem_capitals {text marks : List Char} (known : ∀ mark ∈ marks, mark ∈ ".%2e".toList)
    (lower : text.map Char.toLower = marks) : text ∈ capitals marks := by
  induction text generalizing marks with
  | nil =>
      subst lower
      exact List.mem_singleton.mpr rfl
  | cons character text ih =>
      subst lower
      have later := ih (fun mark member => known mark (List.mem_cons_of_mem _ member)) rfl
      refine List.mem_flatMap.mpr ⟨text, later, ?_⟩
      rcases eq_of_toLower (known _ List.mem_cons_self) rfl with same | ⟨letter, rfl⟩
      · split
        · rename_i letter
          rw [← same] at letter
          rw [letter]
          exact List.mem_cons_self
        · rw [← same]
          exact List.mem_cons_self
      · rw [if_pos letter]
        exact List.mem_cons_of_mem _ List.mem_cons_self

theorem toList_toLower (text : String) : text.toLower.toList = text.toList.map Char.toLower := by
  show (String.map Char.toLower text).toList = _
  simp

/-- What a text stands for is told from its form in lower case, if this has only dots in it. -/
theorem decode_of_toLower {segment marks : String} {octets : Octets}
    (known : marks.toList.all ".%2e".toList.contains = true)
    (all : ∀ text ∈ capitals marks.toList, Percent.decode (encodeChars text) = octets)
    (lower : segment.toLower = marks) : Percent.decode (encode segment) = octets := by
  refine all segment.toList (mem_capitals (fun mark member => ?_) ?_)
  · exact List.contains_iff_mem.mp (List.all_eq_true.mp known mark member)
  · rw [← lower, toList_toLower]

theorem decode_of_isSingleDot {segment : String} (dot : isSingleDot segment = true) :
    Percent.decode (encode segment) = encode "." := by
  simp only [isSingleDot, Bool.or_eq_true, beq_iff_eq] at dot
  rcases dot with lower | lower <;>
    exact decode_of_toLower (by decide) (by decide +kernel) lower

theorem decode_of_isDoubleDot {segment : String} (dots : isDoubleDot segment = true) :
    Percent.decode (encode segment) = encode ".." := by
  simp only [isDoubleDot, List.contains_eq_mem, List.mem_cons, List.not_mem_nil, or_false,
    decide_eq_true_eq] at dots
  rcases dots with lower | lower | lower | lower <;>
    exact decode_of_toLower (by decide) (by decide +kernel) lower

/-- Of the segments that stood above some are left, and behind them there are only the new
ones and empty ones. -/
theorem resolve_parts (reversed segments : List String) :
    ∃ kept later, resolve reversed segments = kept ++ later ∧ kept <+: reversed.reverse ∧
      ∀ segment ∈ later, segment = "" ∨ segment ∈ segments := by
  have above (reversed : List String) : (leave reversed).reverse <+: reversed.reverse := by
    rw [List.reverse_prefix]
    unfold leave
    split
    · exact List.suffix_refl _
    · split
      · exact List.suffix_refl _
      · exact List.suffix_cons _ _
  fun_induction resolve reversed segments with
  | case1 reversed => exact ⟨reversed.reverse, [], by simp, List.prefix_refl _, by simp⟩
  | case2 reversed last double =>
      exact ⟨(leave reversed).reverse, [""], by simp, above reversed, by simp⟩
  | case3 reversed last notDouble single =>
      exact ⟨reversed.reverse, [""], by simp, List.prefix_refl _, by simp⟩
  | case4 reversed last notDouble notSingle =>
      exact ⟨reversed.reverse, [last], by simp, List.prefix_refl _, by simp⟩
  | case5 reversed segment next rest double ih =>
      obtain ⟨kept, later, resolved, before, new⟩ := ih
      exact ⟨kept, later, resolved, before.trans (above reversed), fun other member =>
        (new other member).imp_right (List.mem_cons_of_mem segment)⟩
  | case6 reversed segment next rest notDouble single ih =>
      obtain ⟨kept, later, resolved, before, new⟩ := ih
      exact ⟨kept, later, resolved, before, fun other member =>
        (new other member).imp_right (List.mem_cons_of_mem segment)⟩
  | case7 reversed segment next rest notDouble notSingle ih =>
      obtain ⟨kept, later, resolved, before, new⟩ := ih
      rw [List.reverse_cons, List.prefix_concat_iff] at before
      rcases before with rfl | before
      · refine ⟨reversed.reverse, segment :: later, by rw [resolved]; simp, List.prefix_refl _,
          fun other member => ?_⟩
        rcases List.mem_cons.mp member with rfl | behind
        · exact .inr List.mem_cons_self
        · exact (new other behind).imp_right (List.mem_cons_of_mem segment)
      · exact ⟨kept, later, resolved, before, fun other member =>
          (new other member).imp_right (List.mem_cons_of_mem segment)⟩

theorem splitOn_slashed (special : Bool) (text : List Char) :
    (text.map (slashed special)).splitOn '/' = text.splitOnP (isSlash special) := by
  rw [List.splitOn_eq_splitOnP]
  induction text with
  | nil => rfl
  | cons character text ih =>
      rw [List.map_cons, List.splitOnP_cons_eq_if_modifyHead,
        List.splitOnP_cons_eq_if_modifyHead, ih]
      cases slash : isSlash special character with
      | true => simp [slashed, slash]
      | false =>
          have other : (character == '/') = false := by
            rw [isSlash, Bool.or_eq_false_iff, decide_eq_false_iff_not] at slash
            exact beq_eq_false_iff_ne.mpr slash.1
          simp [slashed, slash, other]

theorem of_mem_splitOnP {stop : Char → Bool} {text part : List Char}
    (member : part ∈ text.splitOnP stop) :
    part.Sublist text ∧ ∀ character ∈ part, stop character = false := by
  induction text generalizing part with
  | nil =>
      obtain rfl : part = [] := by simpa using member
      simp
  | cons character text ih =>
      rw [List.splitOnP_cons_eq_if_modifyHead] at member
      split at member
      · rcases List.mem_cons.mp member with rfl | behind
        · simp
        · obtain ⟨inside, free⟩ := ih behind
          exact ⟨inside.cons character, free⟩
      · rename_i kept
        obtain ⟨first, others, parts⟩ :=
          List.exists_cons_of_ne_nil (List.splitOnP_ne_nil stop text)
        rw [parts] at ih member
        rcases List.mem_cons.mp member with rfl | behind
        · obtain ⟨inside, free⟩ := ih List.mem_cons_self
          refine ⟨inside.cons_cons character, fun other among => ?_⟩
          rcases List.mem_cons.mp among with rfl | behind
          · exact Bool.eq_false_iff.mpr kept
          · exact free other behind
        · obtain ⟨inside, free⟩ := ih (List.mem_cons_of_mem first behind)
          exact ⟨inside.cons character, free⟩

/-- A piece of a path is an escaped part of it without separators. -/
theorem exists_of_mem_pieces {special : Bool} {text : List Char} {piece : String}
    (member : piece ∈ pieces special text) :
    ∃ part, piece = escape pathSpecial part ∧ part.Sublist text ∧
      ∀ character ∈ part, isSlash special character = false := by
  rw [pieces, splitOn_slashed] at member
  obtain ⟨part, among, rfl⟩ := List.mem_map.mp member
  obtain ⟨inside, free⟩ := of_mem_splitOnP among
  exact ⟨part, rfl, inside, free⟩

theorem tail_sublist (text : List Char) : (tail text).Sublist text := by
  have reversed : (text.reverse.dropWhile isEdge).reverse.Sublist text.reverse.reverse :=
    (List.dropWhile_sublist isEdge).reverse
  rw [List.reverse_reverse] at reversed
  exact List.filter_sublist.trans reversed

/-- Nothing is dropped of a text exactly if it has no line breaks and tabs and does not end in
white space. -/
theorem tail_eq_self_iff {text : List Char} : tail text = text ↔
    (∀ character ∈ text, isKept character = true) ∧
      ∀ character ∈ text.getLast?, isEdge character = false := by
  constructor
  · intro whole
    have shorter : (text.reverse.dropWhile isEdge).reverse = text := by
      have inside : (tail text).Sublist (text.reverse.dropWhile isEdge).reverse :=
        List.filter_sublist
      have outside : (text.reverse.dropWhile isEdge).reverse.Sublist text.reverse.reverse :=
        (List.dropWhile_sublist isEdge).reverse
      rw [whole] at inside
      rw [List.reverse_reverse] at outside
      exact outside.antisymm inside
    refine ⟨?_, fun character last => ?_⟩
    · rw [tail, shorter] at whole
      exact List.filter_eq_self.mp whole
    · obtain ⟨before, rfl⟩ := List.getLast?_eq_some_iff.mp last
      by_contra edge
      rw [Bool.not_eq_false] at edge
      rw [List.reverse_append, List.reverse_singleton, List.singleton_append,
        List.dropWhile_cons_of_pos edge] at shorter
      have fewer := congrArg List.length shorter
      have bound := (List.dropWhile_sublist isEdge (l := before.reverse)).length_le
      simp only [List.length_reverse, List.length_append, List.length_singleton] at fewer bound
      omega
  · rintro ⟨kept, last⟩
    have ended : text.reverse.dropWhile isEdge = text.reverse := by
      rcases List.eq_nil_or_concat text with rfl | ⟨before, character, rfl⟩
      · rfl
      · have visible := last character (by simp)
        rw [List.concat_eq_append, List.reverse_append, List.reverse_singleton,
          List.singleton_append, List.dropWhile_cons_of_neg (by simp [visible])]
    rw [tail, ended, List.reverse_reverse, List.filter_eq_self.mpr kept]

/-- A text that is one segment as it stands: none of its characters is dropped or ends a
segment, no escape is in it, and it is no dots. -/
structure StandsForItself (text : String) : Prop where
  solid : ∀ character ∈ text.toList, character ∉ ['\t', '\n', '\r', '/', '\\', '?', '#']
  visibleEnd : ∀ character ∈ text.toList.getLast?, 0x20 < character.toNat
  unescaped : Percent.IsUnescaped (encode text)
  notDot : text ≠ "."
  notDots : text ≠ ".."

theorem standsForItself_empty : StandsForItself "" where
  solid := by simp
  visibleEnd := by simp
  unescaped := Percent.decode_eq_self_iff.mp rfl
  notDot := by decide
  notDots := by decide

/-- An address of a word and one segment below it that stands for a text, without a query. -/
structure LeadsTo (url : Url) (word text : String) : Prop where
  query : url.query = none
  segments : ∃ segment, url.segments = [word, segment] ∧
    Percent.decode (encode segment) = encode text

namespace StandsForItself

variable {text other : String}

theorem decode (stands : StandsForItself text) :
    Percent.decode (encode (escape pathSpecial text.toList)) = encode text := by
  rw [decode_escape]
  exact Percent.decode_eq_self_iff.mpr stands.unescaped

/-- Texts that stand for themselves differ in their escaped forms. -/
theorem eq_of_escape (stands : StandsForItself text) (standsOther : StandsForItself other)
    (same : escape pathSpecial text.toList = escape pathSpecial other.toList) : text = other := by
  have decoded := stands.decode
  rw [same, standsOther.decode] at decoded
  exact (encode_inj decoded).symm

end StandsForItself

def cutQuery (text : List Char) : List Char × List Char :=
  cut (· = '?') (cut (· = '#') (tail text)).1

theorem cutQuery_sublist (text : List Char) : (cutQuery text).1.Sublist (tail text) :=
  (List.takeWhile_sublist _).trans (List.takeWhile_sublist _)

theorem of_mem_cutQuery {text : List Char} {character : Char}
    (member : character ∈ (cutQuery text).1) : character ≠ '#' ∧ character ≠ '?' := by
  have before := (List.takeWhile_sublist _).subset member
  exact ⟨by simpa using List.mem_takeWhile_imp before, by simpa using List.mem_takeWhile_imp member⟩

/-- A part of a text that stands for the whole is the whole, and no escape is in it. -/
theorem eq_of_decode {part text : List Char} (inside : part.Sublist text)
    (stands : Percent.decode (encodeChars part) = encodeChars text) :
    part = text ∧ Percent.IsUnescaped (encodeChars text) := by
  have octets : (encodeChars part).Sublist (encodeChars text) := inside.flatMap encodeChar
  have enough : (encodeChars text).length ≤ (encodeChars part).length := by
    rw [← stands]
    exact Percent.length_decode_le _
  have whole : encodeChars part = encodeChars text := octets.eq_of_length_le enough
  rw [whole] at stands
  refine ⟨?_, Percent.decode_eq_self_iff.mp stands⟩
  have decoded := decodeChars?_encodeChars part
  rw [whole, decodeChars?_encodeChars] at decoded
  exact (Option.some.inj decoded).symm

theorem getLast?_resolve_of_dots (reversed : List String) {segment : String}
    (dots : isSingleDot segment = true ∨ isDoubleDot segment = true) :
    (resolve reversed [segment]).getLast? = some "" := by
  rw [resolve]
  split
  · simp
  · rename_i notDouble
    rw [if_pos (dots.resolve_right notDouble)]
    simp

section Below

variable {root : Url} {word : String}

theorem extend_below (special : isSpecial root.scheme = true) (plain : isPlainSegment word = true)
    (text : String) :
    let url := root.extend (tail (word ++ "/" ++ text).toList)
    url.segments = resolve [word] (pieces true (cutQuery text.toList).1) ∧
      (url.query = none ↔ (cutQuery text.toList).2 = []) := by
  intro url
  have single : ∀ segment ∈ [word], isPlainSegment segment = true := by simpa using plain
  have characters : ∀ character ∈ word.toList, isPlain character = true :=
    isPlain_of_mem single word (by simp)
  have visible : ∀ character ∈ word.toList, 0x20 < character.toNat := fun character member => by
    have := toNat_of_isPlain (characters character member)
    omega
  have free {mark : Char} (notPlain : isPlain mark = false) (notSlash : mark ≠ '/') :
      ∀ character ∈ word.toList ++ ['/'], decide (character = mark) = false := by
    intro character member
    rw [decide_eq_false_iff_not]
    rcases List.mem_append.mp member with inWord | slash
    · exact ne_of_isPlain (characters character inWord) notPlain
    · rw [List.mem_singleton.mp slash]
      exact notSlash.symm
  have written : (word ++ "/" ++ text).toList = word.toList ++ '/' :: text.toList := by simp
  have read : tail (word ++ "/" ++ text).toList =
      word.toList ++ ['/'] ++ tail text.toList := by
    rw [written, tail_append, filter_isKept_of_forall visible]
    simp
  have onlyWord : pieces true word.toList = [word] := by
    have joined : join [word] = word.toList := by simp [join, List.intercalate]
    rw [← joined]
    exact pieces_join true single (by simp)
  have path : resolve [] (pieces true (word.toList ++ ['/'] ++ (cutQuery text.toList).1)) =
      resolve [word] (pieces true (cutQuery text.toList).1) := by
    obtain ⟨next, after, below⟩ : ∃ next after,
        pieces true (cutQuery text.toList).1 = next :: after := by
      refine List.exists_cons_of_ne_nil fun empty => ?_
      simp [pieces] at empty
    obtain ⟨notSingle, notDouble⟩ := not_dots_of_isPlainSegment plain
    rw [List.append_assoc, List.singleton_append, pieces_append, onlyWord, below, resolve_append,
      List.foldl_cons, List.foldl_nil, advance, notDouble, notSingle]
    rfl
  have located : url.segments = resolve [] (pieces true
        (word.toList ++ ['/'] ++ (cutQuery text.toList).1)) ∧
      url.query = if (cutQuery text.toList).2.isEmpty then none
        else some (escape (querySpecial false) ((cutQuery text.toList).2.drop 1)) := by
    show (root.extend _).segments = _ ∧ (root.extend _).query = _
    rw [read, extend, cut_append (free (by decide) (by decide))]
    simp only
    rw [cut_append (free (by decide) (by decide)), special]
    exact ⟨rfl, rfl⟩
  refine ⟨located.1.trans path, ?_⟩
  rw [located.2]
  cases (cutQuery text.toList).2 with
  | nil => simp
  | cons mark query => simp

/-- Below a word a text that stands for itself is one segment, its escaped form. -/
theorem StandsForItself.segments {text : String} (stands : StandsForItself text)
    (special : isSpecial root.scheme = true) (plain : isPlainSegment word = true) :
    let url := root.extend (tail (word ++ "/" ++ text).toList)
    url.query = none ∧ url.segments = [word, escape pathSpecial text.toList] := by
  intro url
  obtain ⟨segments, query_iff⟩ := extend_below special plain text
  have apart {character mark : Char} (member : character ∈ text.toList)
      (listed : mark ∈ ['\t', '\n', '\r', '/', '\\', '?', '#']) : character ≠ mark := by
    rintro rfl
    exact stands.solid character member listed
  have whole : tail text.toList = text.toList := by
    refine tail_eq_self_iff.mpr ⟨fun character member => ?_, fun character last => ?_⟩
    · simp only [isKept, Bool.and_eq_true, bne_iff_ne]
      exact ⟨⟨apart member (by decide), apart member (by decide)⟩, apart member (by decide)⟩
    · have visible := stands.visibleEnd character last
      simp only [isEdge, decide_eq_false_iff_not]
      omega
  have uncut : cutQuery text.toList = (text.toList, []) := by
    rw [cutQuery, whole,
      cut_of_forall fun character member => decide_eq_false (apart member (by decide)),
      cut_of_forall fun character member => decide_eq_false (apart member (by decide))]
  have one : pieces true text.toList = [escape pathSpecial text.toList] := by
    rw [pieces, splitOn_slashed, List.splitOnP_eq_singleton, List.map_singleton]
    intro character member
    have slash : character ≠ '/' := apart member (by decide)
    have backslash : character ≠ '\\' := apart member (by decide)
    simp [isSlash, slash, backslash]
  have decoded := stands.decode
  have notDots : isSingleDot (escape pathSpecial text.toList) = false ∧
      isDoubleDot (escape pathSpecial text.toList) = false := by
    constructor
    · rw [Bool.eq_false_iff]
      intro dot
      exact stands.notDot (encode_inj (decoded.symm.trans (decode_of_isSingleDot dot)))
    · rw [Bool.eq_false_iff]
      intro dots
      exact stands.notDots (encode_inj (decoded.symm.trans (decode_of_isDoubleDot dots)))
  refine ⟨query_iff.mpr (by rw [uncut]), ?_⟩
  rw [segments, uncut, one, resolve_of_forall [word] (by simpa using notDots)]
  rfl

/-- Below a word a text is read as one segment that stands for it exactly if it stands for
itself. -/
theorem leadsTo_extend_iff (special : isSpecial root.scheme = true)
    (plain : isPlainSegment word = true) (text : String) :
    (root.extend (tail (word ++ "/" ++ text).toList)).LeadsTo word text ↔
      StandsForItself text := by
  constructor
  · rintro ⟨-, segment, segments, stands⟩
    obtain ⟨resolved, -⟩ := extend_below special plain text
    rw [segments] at resolved
    have among : segment = "" ∨ segment ∈ pieces true (cutQuery text.toList).1 := by
      obtain ⟨kept, later, parts, before, new⟩ :=
        resolve_parts [word] (pieces true (cutQuery text.toList).1)
      rw [parts] at resolved
      refine new segment ?_
      rcases kept with - | ⟨first, - | ⟨second, kept⟩⟩
      · rw [← show [word, segment] = later from resolved]
        simp
      · rw [← show [segment] = later from (List.cons.inj resolved).2]
        simp
      · have short := before.length_le
        simp at short
    rcases among with rfl | member
    · obtain rfl : text = "" := encode_inj stands.symm
      exact standsForItself_empty
    · obtain ⟨part, rfl, inside, free⟩ := exists_of_mem_pieces member
      rw [decode_escape] at stands
      obtain ⟨rfl, unescaped⟩ := eq_of_decode
        ((inside.trans (cutQuery_sublist _)).trans (tail_sublist _)) stands
      have whole : tail text.toList = text.toList :=
        (tail_sublist _).antisymm (inside.trans (cutQuery_sublist _))
      have path : (cutQuery text.toList).1 = text.toList :=
        ((cutQuery_sublist _).trans (tail_sublist _)).antisymm inside
      obtain ⟨kept, visible⟩ := tail_eq_self_iff.mp whole
      have notDots {dots : String} (one : pieces true dots.toList = [dots])
          (isDots : isSingleDot dots = true ∨ isDoubleDot dots = true)
          (some : escape pathSpecial dots.toList ≠ "") : text ≠ dots := by
        rintro rfl
        rw [path, one] at resolved
        have last := getLast?_resolve_of_dots [word] isDots
        rw [← resolved] at last
        exact some (by simpa using last)
      refine ⟨fun character member listed => ?_, fun character last => ?_, unescaped,
        notDots (by decide +kernel) (by decide +kernel) (by decide +kernel),
        notDots (by decide +kernel) (by decide +kernel) (by decide +kernel)⟩
      · have isKept := kept character member
        have notSlash := free character member
        have notMark := of_mem_cutQuery (path ▸ member)
        simp only [List.mem_cons, List.not_mem_nil, or_false] at listed
        rcases listed with rfl | rfl | rfl | rfl | rfl | rfl | rfl <;>
          simp_all [Url.isKept, isSlash]
      · have notEdge := visible character last
        simp only [isEdge, decide_eq_false_iff_not] at notEdge
        omega
  · intro stands
    obtain ⟨query, segments⟩ := stands.segments special plain
    exact ⟨query, _, segments, stands.decode⟩

end Below

end Url

end SignIn
