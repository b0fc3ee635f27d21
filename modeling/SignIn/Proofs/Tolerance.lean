import Mathlib.Logic.Relation
import SignIn.Proofs.Json.Rearranging
import SignIn.Proofs.Records

/-!
# Which documents say the same

A record is decoded from what its members say: their order, the blanks between them and members
with other names make no difference, and a member that says nothing may be left out.  A record
without one of its required members is not decoded.  The same holds of the records that a record
consists of.
-/

namespace SignIn

open Json

/-- The kinds of records: a profile in its own form and in a server's, the two replies that tell
a reputation, its breakdown, and the parts of that. -/
inductive RecordKind where
  | profile
  | user
  | report
  | account
  | data
  | counts
  | points

namespace RecordKind

abbrev Draft : RecordKind → Type
  | profile => Profile.Draft
  | user => UserDraft
  | report => Reputation.Draft
  | account => Account.Draft
  | data => ReputationData.Draft
  | counts => ActivityCounts.Draft
  | points => Points.Draft

abbrev Value : RecordKind → Type
  | profile => Profile
  | user => Profile
  | report => Reputation
  | account => Account
  | data => ReputationData
  | counts => ActivityCounts
  | points => Points

def shape : (kind : RecordKind) → Shape kind.Draft kind.Value
  | profile => Profile.shape
  | user => Profile.userShape
  | report => Reputation.reportShape
  | account => Account.shape
  | data => ReputationData.shape
  | counts => ActivityCounts.shape
  | points => Points.shape

def decode : (kind : RecordKind) → Octets → Except DecodeError kind.Value
  | profile => Profile.decode
  | user => Profile.userShape.reader.decode
  | report => Reputation.decodeReport
  | account => Account.decode
  | data => ReputationData.decode
  | counts => ActivityCounts.decode
  | points => Points.decode

theorem decode_eq (kind : RecordKind) : kind.decode = kind.shape.reader.decode := by
  cases kind <;> rfl

def required : RecordKind → List String
  | profile => ["fid", "username"]
  | user => ["userID", "username"]
  | report => ["reputation"]
  | account => ["user", "reputation"]
  | data | counts | points => []

def parts : RecordKind → List (String × RecordKind)
  | report => [("reputationData", data)]
  | account => [("user", user), ("reputationData", data)]
  | data => [("activityCounts", counts), ("points", points)]
  | profile | user | counts | points => []

/-- The members that need not be there, and what they hold when they say nothing. -/
def optional : RecordKind → List (String × (Json.Tree → Prop))
  | profile => [
      ("displayName", (Reader.text.Takes · "")),
      ("bio", (Reader.text.Takes · "")),
      ("pfpUrl", (Reader.text.Takes · "")),
      ("custody", (Reader.text.Takes · "")),
      ("verifications", ((Reader.list .text).Takes · []))]
  | user => [
      ("displayname", (Reader.text.Takes · "")),
      ("bio", ((Reader.optional .text).Takes · none)),
      ("bio", ((Reader.optional .text).Takes · (some ""))),
      ("avatar", ((Reader.optional .text).Takes · none)),
      ("avatar", ((Reader.optional .text).Takes · (some ""))),
      ("custodyAddress", (Reader.text.Takes · "")),
      ("addresses", ((Reader.list .text).Takes · []))]
  | report => [("reputationData", (ReputationData.shape.reader.Takes · {}))]
  | account => [("reputationData", (ReputationData.shape.reader.Takes · {}))]
  | data => [
      ("activityCounts", (ActivityCounts.shape.reader.Takes · {})),
      ("boosters", ((Reader.dictionary .boolean).Takes · .empty)),
      ("points", (Points.shape.reader.Takes · {})),
      ("totalReputation", (Reader.word32.Takes · 0))]
  | counts => [
      ("followersCount", (Reader.word64.Takes · 0)),
      ("electionsCreated", (Reader.word64.Takes · 0)),
      ("castedVotes", (Reader.word64.Takes · 0)),
      ("participationAchievement", (Reader.word64.Takes · 0)),
      ("communitiesCount", (Reader.word64.Takes · 0))]
  | points => [
      ("ownerPoints", (Reader.word64.Takes · 0)),
      ("voterPoints", (Reader.word64.Takes · 0)),
      ("totalPoints", (Reader.word64.Takes · 0))]

theorem judges_fields (kind : RecordKind) :
    ∀ field ∈ kind.shape.fields, ∀ tree, field.reader.Judges tree := by
  cases kind with
  | profile => exact Profile.judges_fields
  | user => exact Profile.judges_userFields
  | report => exact Reputation.judges_reportFields
  | account => exact Account.judges_fields
  | data => exact ReputationData.judges_fields
  | counts => exact ActivityCounts.judges_fields
  | points => exact Points.judges_fields

theorem settles (kind : RecordKind) : ∀ field ∈ kind.shape.fields, field.Settles := by
  cases kind
  all_goals
    simp only [shape, Profile.shape, Profile.userShape, Reputation.reportShape, Account.shape,
      ReputationData.shape, ActivityCounts.shape, Points.shape, List.forall_mem_cons,
      List.not_mem_nil, false_implies, implies_true, and_true]
    repeat' apply And.intro
  all_goals exact Json.Field.Settles.of_map fun _ _ => rfl

theorem apart (kind : RecordKind) : kind.shape.fields.Pairwise Json.Field.Apart := by
  cases kind
  all_goals
    simp only [shape, Profile.shape, Profile.userShape, Reputation.reportShape, Account.shape,
      ReputationData.shape, ActivityCounts.shape, Points.shape, List.pairwise_cons,
      List.forall_mem_cons, List.not_mem_nil, List.Pairwise.nil, false_implies, implies_true,
      and_true]
    repeat' apply And.intro
  all_goals exact Json.Field.Apart.of_map (fun _ _ _ => rfl) (fun _ _ => rfl) fun _ _ => rfl

/-- Whatever the kind of record, its fields do not disturb each other. -/
theorem orderly (kind : RecordKind) : Orderly kind.shape.fields :=
  ⟨kind.judges_fields, kind.settles, kind.apart⟩

theorem judges (kind : RecordKind) (tree : Json.Tree) : kind.shape.reader.Judges tree :=
  Shape.judges kind.judges_fields tree

theorem required_of_free {α : Type} {name : String} {value : Option α}
    (free : value.isSome = false) : Json.required name value = .error name := by
  cases value with
  | none => rfl
  | some value => contradiction

theorem bind_fails {α β : Type} {first : Except String α} {next : α → Except String β}
    (fails : ∀ value, ∃ missing, next value = .error missing) :
    ∃ missing, (first >>= next) = .error missing := by
  cases first with
  | error missing => exact ⟨missing, rfl⟩
  | ok value => exact fails value

theorem required_bind_fails {α β : Type} {name : String} {value : Option α}
    (free : value.isSome = false) (next : α → Except String β) :
    ∃ missing, (Json.required name value >>= next) = .error missing :=
  ⟨name, by rw [required_of_free free]; rfl⟩

theorem unfinished_of_required {kind : RecordKind} {name : String}
    (needed : name ∈ kind.required) :
    ∃ field, kind.shape.fields.find? (·.name == name) = some field ∧ ∀ filled,
      field.filled filled = false → ∃ missing, kind.shape.finish filled = .error missing := by
  cases kind with
  | profile =>
      simp only [required, List.mem_cons, List.not_mem_nil, or_false] at needed
      rcases needed with rfl | rfl
      · exact ⟨_, rfl, fun filled free => required_bind_fails free _⟩
      · exact ⟨_, rfl, fun filled free => bind_fails fun fid => required_bind_fails free _⟩
  | user =>
      simp only [required, List.mem_cons, List.not_mem_nil, or_false] at needed
      rcases needed with rfl | rfl
      · exact ⟨_, rfl, fun filled free => required_bind_fails free _⟩
      · exact ⟨_, rfl, fun filled free => bind_fails fun fid => required_bind_fails free _⟩
  | report =>
      obtain rfl := List.mem_singleton.mp needed
      exact ⟨_, rfl, fun filled free => required_bind_fails free _⟩
  | account =>
      simp only [required, List.mem_cons, List.not_mem_nil, or_false] at needed
      rcases needed with rfl | rfl
      · exact ⟨_, rfl, fun filled free => required_bind_fails free _⟩
      · exact ⟨_, rfl, fun filled free => bind_fails fun user => required_bind_fails free _⟩
  | data | counts | points => contradiction

theorem optional_of_map {α draft value : Type} {shape : Shape draft value} {reader : Reader α}
    {isFilled : draft → Bool} {set : α → draft → draft} {name : String} (held : α)
    (same : ∀ filled, isFilled filled = false →
      shape.finish (set held filled) = shape.finish filled) {tree : Json.Tree}
    (takes : reader.Takes tree held) {update : draft → draft}
    (taken : (Json.Field.mk name isFilled (reader.map set)).reader.Takes tree update)
    (filled : draft) (free : isFilled filled = false) :
    shape.finish (update filled) = shape.finish filled := by
  obtain rfl := taken.unique (takes.map set)
  exact same filled free

/-- A record is finished without an optional member as with one that says nothing. -/
theorem finish_of_optional (kind : RecordKind) : ∀ member ∈ kind.optional,
    ∃ field, kind.shape.fields.find? (·.name == member.1) = some field ∧ ∀ tree, member.2 tree →
      ∀ update, field.reader.Takes tree update → ∀ filled, field.filled filled = false →
        kind.shape.finish (update filled) = kind.shape.finish filled := by
  cases kind
  all_goals
    simp only [RecordKind.optional, List.forall_mem_cons, List.not_mem_nil, false_implies,
      implies_true, and_true]
    repeat' apply And.intro
  all_goals
    refine ⟨_, rfl, fun tree takes update => optional_of_map _ (fun filled free => ?_) takes⟩
    simp_all [shape, Profile.shape, Profile.userShape, Reputation.reportShape, Account.shape,
      ReputationData.shape, ActivityCounts.shape, Points.shape]

theorem find?_part {kind part : RecordKind} {name : String} (among : (name, part) ∈ kind.parts) :
    ∃ isFilled set, kind.shape.fields.find? (·.name == name) =
      some ⟨name, isFilled, part.shape.reader.map set⟩ := by
  cases kind with
  | report =>
      obtain ⟨rfl, rfl⟩ : name = "reputationData" ∧ part = data := by simpa [parts] using among
      exact ⟨_, _, rfl⟩
  | account =>
      simp only [parts, List.mem_cons, List.not_mem_nil, or_false, Prod.mk.injEq] at among
      rcases among with ⟨rfl, rfl⟩ | ⟨rfl, rfl⟩
      all_goals exact ⟨_, _, rfl⟩
  | data =>
      simp only [parts, List.mem_cons, List.not_mem_nil, or_false, Prod.mk.injEq] at among
      rcases among with ⟨rfl, rfl⟩ | ⟨rfl, rfl⟩
      all_goals exact ⟨_, _, rfl⟩
  | profile | user | counts | points => contradiction

/-- One edit of the members of a record that does not change what they say. -/
inductive Edit : RecordKind → List Member → List Member → Prop where
  /-- Members change places. -/
  | reorder {kind : RecordKind} {members members' : List Member}
      (perm : members.Perm members') : Edit kind members members'
  /-- A member under a name that the record does not know is put in. -/
  | insert {kind : RecordKind} {before behind : List Member} {name : List Piece}
      {text : String} (named : text? name = some text)
      (unknown : ∀ field ∈ kind.shape.fields, field.name ≠ text) (tree : Json.Tree) :
      Edit kind (before ++ behind) (before ++ (name, tree) :: behind)
  /-- A member under such a name holds something else. -/
  | ignore {kind : RecordKind} {before behind : List Member} {name : List Piece}
      {text : String} (named : text? name = some text)
      (unknown : ∀ field ∈ kind.shape.fields, field.name ≠ text) (tree tree' : Json.Tree) :
      Edit kind (before ++ (name, tree) :: behind) (before ++ (name, tree') :: behind)
  /-- An optional member that says nothing is left out. -/
  | drop {kind : RecordKind} {before behind : List Member} {name : List Piece}
      {text : String} {idle : Json.Tree → Prop} {tree : Json.Tree} (named : text? name = some text)
      (optional : (text, idle) ∈ kind.optional) (holds : idle tree) :
      Edit kind (before ++ (name, tree) :: behind) (before ++ behind)
  /-- A record within the record is edited. -/
  | within {kind part : RecordKind} {before behind members members' : List Member}
      {name : List Piece} {text : String} (named : text? name = some text)
      (among : (text, part) ∈ kind.parts) (edit : Edit part members members') :
      Edit kind (before ++ (name, .object members) :: behind)
        (before ++ (name, .object members') :: behind)
  /-- Boosters under different names change places. -/
  | boosters {before behind entries entries' : List Member} {name : List Piece}
      (named : text? name = some "boosters") (perm : entries.Perm entries')
      (distinct : entries.Pairwise fun entry other => text? entry.1 ≠ text? other.1) :
      Edit data (before ++ (name, .object entries) :: behind)
        (before ++ (name, .object entries') :: behind)

/-- A required member is taken out of a record or of a record within it. -/
inductive Loses : RecordKind → List Member → List Member → Prop where
  | here {kind : RecordKind} {before behind : List Member} {name : List Piece}
      {text : String} {tree : Json.Tree} (named : text? name = some text)
      (needed : text ∈ kind.required) :
      Loses kind (before ++ (name, tree) :: behind) (before ++ behind)
  | within {kind part : RecordKind} {before behind members members' : List Member}
      {name : List Piece} {text : String} (named : text? name = some text)
      (among : (text, part) ∈ kind.parts) (loses : Loses part members members') :
      Loses kind (before ++ (name, .object members) :: behind)
        (before ++ (name, .object members') :: behind)

theorem find?_unknown {draft : Type} {fields : List (Json.Field draft)} {text : String}
    (unknown : ∀ field ∈ fields, field.name ≠ text) :
    fields.find? (·.name == text) = none := by
  rw [List.find?_eq_none]
  intro field member
  simpa using unknown field member

section Edited

variable {kind : RecordKind} {members members' : List Member}

/-- What a record is taken as survives an edit. -/
theorem Edit.takes (edit : Edit kind members members') :
    ∀ value, kind.shape.reader.Takes (.object members) value →
      kind.shape.reader.Takes (.object members') value := by
  induction edit with
  | reorder perm => exact fun value taken => Shape.takes_perm (orderly _) perm taken
  | insert named unknown tree =>
      exact fun value taken =>
        Shape.takes_insert (orderly _) named (find?_unknown unknown) tree taken
  | ignore named unknown tree tree' =>
      refine fun value taken => Shape.takes_replace (orderly _) named (fun field known => ?_) taken
      rw [find?_unknown unknown] at known
      contradiction
  | drop named optional holds =>
      obtain ⟨field, known, same⟩ := finish_of_optional _ _ optional
      exact fun value taken => Shape.takes_drop (orderly _) named known (same _ holds) taken
  | within named among _ ih =>
      obtain ⟨isFilled, set, found⟩ := find?_part among
      refine fun value taken => Shape.takes_replace (orderly _) named (fun field known => ?_) taken
      obtain rfl := Option.some.inj (found.symm.trans known)
      exact fun update => (judges _ _).takes_map_of_same ih
  | boosters named perm distinct =>
      refine fun value taken =>
        Shape.takes_replace (orderly data) named (fun field known => ?_) taken
      obtain rfl : _ = field := Option.some.inj known
      exact fun update =>
        (Reader.judges_dictionary Reader.judges_boolean _).takes_map_of_same fun entries =>
          Reader.takes_dictionary_perm Reader.judges_boolean perm distinct

theorem takes_of_edits (edits : Relation.ReflTransGen (Edit kind) members members')
    {value : kind.Value} (takes : kind.shape.reader.Takes (.object members) value) :
    kind.shape.reader.Takes (.object members') value := by
  induction edits with
  | refl => exact takes
  | tail _ edit ih => exact edit.takes value ih

/-- A record that has lost a required member is not taken any more. -/
theorem Loses.not_takes (loses : Loses kind members members') :
    ∀ value, kind.shape.reader.Takes (.object members) value →
      ¬ ∃ other, kind.shape.reader.Takes (.object members') other := by
  induction loses with
  | here named needed =>
      obtain ⟨field, known, unfinished⟩ := unfinished_of_required needed
      exact fun value taken => Shape.not_takes_drop (orderly _) named known unfinished taken
  | within named among _ ih =>
      obtain ⟨isFilled, set, known⟩ := find?_part among
      intro value taken
      obtain ⟨finished, fills, _⟩ := (Shape.takes_object_iff (judges_fields _)).mp taken
      obtain ⟨update, held⟩ := fills.takes_of_known named known
      obtain ⟨inner, innerTaken, _⟩ := (judges _ _).of_map held
      refine Shape.not_takes_of_member (orderly _) named known ?_
      rintro ⟨update', held'⟩
      obtain ⟨other, otherTaken, _⟩ := (judges _ _).of_map held'
      exact ih inner innerTaken ⟨other, otherTaken⟩

end Edited

/-- A document that decodes as a record decodes as the same record after edits that change nothing,
however its blanks stand, and does not decode after the loss of a required member. -/
theorem edits_keep_and_losses_fail (kind : RecordKind) {members members' : List Member}
    {document document' : Octets} {value : kind.Value}
    (written : (Json.Tree.object members).Document document)
    (written' : (Json.Tree.object members').Document document')
    (decoded : kind.decode document = .ok value) :
    (Relation.ReflTransGen (Edit kind) members members' → kind.decode document' = .ok value) ∧
      (Loses kind members members' → ∃ error, kind.decode document' = .error error) := by
  rw [decode_eq] at decoded ⊢
  have taken := (kind.judges _).takes_of_decode written decoded
  constructor
  · intro edits
    exact (takes_of_edits edits taken).decode written'
  · intro loses
    exact (kind.judges _).decode_of_not_takes written' (loses.not_takes value taken)

section Ann

def annsNumber : Member :=
  (verbatim "userID" (by decide), .number false ⟨'7', [], [], none, by simp, by simp, by simp⟩)

def annsName : Member :=
  (verbatim "username" (by decide), .text (verbatim "ann" (by decide)))

def annsBio : Member :=
  (verbatim "bio" (by decide), .null)

def annsScore : Member :=
  (verbatim "reputation" (by decide), .number false ⟨'3', [], [], none, by simp, by simp, by simp⟩)

/-- A member that no record knows. -/
def annsPets : Member :=
  (verbatim "pets" (by decide), .list [.object [annsName, annsName]])

def annsRecord (members : List Member) : Member :=
  (verbatim "user" (by decide), .object members)

def annsAccount : Account :=
  ⟨⟨7, "ann", "", "", "", "", []⟩, ⟨3, {}⟩⟩

/-- What Ann's account is written as, given what her record says. -/
def annsDocument (members : List Member) : Octets :=
  (Json.Tree.object [annsRecord members, annsScore]).compact

theorem document_ann (members : List Member) :
    (Json.Tree.object [annsRecord members, annsScore]).Document (annsDocument members) := by
  have written := (Json.Tree.object [annsRecord members, annsScore]).document_compact
    blank_nil blank_nil
  rwa [List.append_nil, List.nil_append] at written

/-- Ann's account in another order, with her pets and without the biography that she has not, is the
same; without her name it is none. -/
theorem anns_account_with_pets :
    account.decode (annsDocument [annsNumber, annsName, annsBio]) = .ok annsAccount ∧
      account.decode ([0x20] ++ ((Json.Tree.object
        [annsScore, annsRecord [annsName, annsNumber], annsPets]).compact ++ [0x0A])) =
          .ok annsAccount ∧
      ∃ error, account.decode (annsDocument [annsNumber, annsBio]) = .error error := by
  have decoded : account.decode (annsDocument [annsNumber, annsName, annsBio]) =
      .ok annsAccount := by
    have found : (Account.decode (annsDocument [annsNumber, annsName, annsBio])).toOption =
      some annsAccount := by decide +kernel
    show Account.decode _ = _
    cases ran : Account.decode (annsDocument [annsNumber, annsName, annsBio]) with
    | error error => simp [ran, Except.toOption] at found
    | ok value => simpa [ran, Except.toOption] using found
  have without : Edit account [annsRecord [annsNumber, annsName, annsBio], annsScore]
      [annsRecord [annsNumber, annsName], annsScore] :=
    @Edit.within account user [] [annsScore] _ _ _ _ (text?_verbatim _) (.head _)
      (@Edit.drop user [annsNumber, annsName] [] _ _ _ _ (text?_verbatim _) (.tail _ (.head _))
        (Reader.takes_null _))
  have turned : Edit account [annsRecord [annsNumber, annsName], annsScore]
      [annsRecord [annsName, annsNumber], annsScore] :=
    @Edit.within account user [] [annsScore] _ _ _ _ (text?_verbatim _) (.head _)
      (.reorder (.swap _ _ _))
  have swapped : Edit account [annsRecord [annsName, annsNumber], annsScore]
      [annsScore, annsRecord [annsName, annsNumber]] := .reorder (.swap _ _ _)
  have more : Edit account [annsScore, annsRecord [annsName, annsNumber]]
      [annsScore, annsRecord [annsName, annsNumber], annsPets] :=
    @Edit.insert account [annsScore, annsRecord [annsName, annsNumber]] [] _ _
      (text?_verbatim _) (by simp [shape, Account.shape]) _
  have less : Loses account [annsRecord [annsNumber, annsName, annsBio], annsScore]
      [annsRecord [annsNumber, annsBio], annsScore] :=
    @Loses.within account user [] [annsScore] _ _ _ _ (text?_verbatim _) (.head _)
      (@Loses.here user [annsNumber] [annsBio] _ _ _ (text?_verbatim _) (.tail _ (.head _)))
  have blank : Blank [0x20] ∧ Blank [0x0A] := by
    constructor <;> simp [Blank] <;> rfl
  refine ⟨decoded, ?_, ?_⟩
  · exact (edits_keep_and_losses_fail account (document_ann _)
      (Json.Tree.document_compact _ blank.1 blank.2) decoded).1
        (.tail (.tail (.tail (.single without) turned) swapped) more)
  · exact (edits_keep_and_losses_fail account (document_ann _) (document_ann _) decoded).2 less

end Ann

end RecordKind

end SignIn
