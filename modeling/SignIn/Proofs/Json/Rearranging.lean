import Mathlib.Data.List.Pairwise
import SignIn.Proofs.Json.Filling
import SignIn.Proofs.Dictionary

/-!
# Members in another order, more of them and fewer

The members of a record may come in any order, since each fills a field of its own and leaves the
other fields as they are.  Members for no field come and go, and so does a member that fills a field
with what an unfilled one stands for.  A record that lacks a required field is not taken.
-/

namespace SignIn

namespace Json

open Utf8 Json.Tree

section Fields

variable {draft : Type}

/-- Two fields that are filled in either order, and each without the other. -/
structure Field.Apart (field other : Field draft) : Prop where
  commute : ∀ {tree tree' : Tree} {update update' : draft → draft}, field.reader.Takes tree update →
    other.reader.Takes tree' update' → ∀ filled, update (update' filled) = update' (update filled)
  spares : ∀ {tree : Tree} {update : draft → draft}, field.reader.Takes tree update →
    ∀ filled, other.filled (update filled) = other.filled filled
  spared : ∀ {tree : Tree} {update : draft → draft}, other.reader.Takes tree update →
    ∀ filled, field.filled (update filled) = field.filled filled

theorem Field.Apart.symm {field other : Field draft} (apart : field.Apart other) :
    other.Apart field where
  commute takes takes' filled := (apart.commute takes' takes filled).symm
  spares := apart.spared
  spared := apart.spares

theorem Field.Apart.of_map {α β : Type} {reader : Reader α} {reader' : Reader β}
    {name name' : String} {isFilled isFilled' : draft → Bool} {set : α → draft → draft}
    {set' : β → draft → draft}
    (commute : ∀ value value' filled, set value (set' value' filled) =
      set' value' (set value filled))
    (spares : ∀ value filled, isFilled' (set value filled) = isFilled' filled)
    (spared : ∀ value filled, isFilled (set' value filled) = isFilled filled) :
    Field.Apart ⟨name, isFilled, reader.map set⟩ ⟨name', isFilled', reader'.map set'⟩ where
  commute takes takes' filled := by
    obtain ⟨value, rfl⟩ := takes.exists_of_map
    obtain ⟨value', rfl⟩ := takes'.exists_of_map
    exact commute value value' filled
  spares takes filled := by
    obtain ⟨value, rfl⟩ := takes.exists_of_map
    exact spares value filled
  spared takes filled := by
    obtain ⟨value, rfl⟩ := takes.exists_of_map
    exact spared value filled

/-- A field is filled by what it takes. -/
def Field.Settles (field : Field draft) : Prop :=
  ∀ {tree : Tree} {update : draft → draft}, field.reader.Takes tree update →
    ∀ filled, field.filled (update filled) = true

theorem Field.Settles.of_map {α : Type} {reader : Reader α} {name : String}
    {isFilled : draft → Bool} {set : α → draft → draft}
    (settles : ∀ value filled, isFilled (set value filled) = true) :
    Field.Settles ⟨name, isFilled, reader.map set⟩ := by
  intro tree update takes filled
  obtain ⟨value, rfl⟩ := takes.exists_of_map
  exact settles value filled

/-- Fields of a record: each judges every value, is filled by what it takes, and is apart from the
others. -/
structure Orderly (fields : List (Field draft)) : Prop where
  judges : ∀ field ∈ fields, ∀ tree, field.reader.Judges tree
  settles : ∀ field ∈ fields, field.Settles
  apart : fields.Pairwise Field.Apart

variable {fields : List (Field draft)} {field other : Field draft} {tree tree' : Tree}
  {update : draft → draft} {filled finished : draft} {name : List Piece} {text : String}
  {members members' before behind : List Member}

theorem Orderly.apart_of_free (orderly : Orderly fields) (member : field ∈ fields)
    (member' : other ∈ fields) (takes : field.reader.Takes tree update)
    (free : other.filled (update filled) = false) : field.Apart other := by
  have symmetric : Std.Symm (@Field.Apart draft) := ⟨fun _ _ => Field.Apart.symm⟩
  refine orderly.apart.forall member member' ?_
  rintro rfl
  rw [orderly.settles field member takes filled] at free
  contradiction

theorem Fills.unique {finished' : draft} (fills : Fills fields filled members finished)
    (again : Fills fields filled members finished') : finished = finished' := by
  induction fills with
  | done => cases again with
    | done => rfl
  | passed named unknown _ ih =>
      cases again with
      | passed _ _ later => exact ih later
      | member named' known _ _ _ =>
          obtain rfl := Option.some.inj (named.symm.trans named')
          rw [unknown] at known
          contradiction
  | member named known _ takes _ ih =>
      cases again with
      | passed named' unknown _ =>
          obtain rfl := Option.some.inj (named.symm.trans named')
          rw [unknown] at known
          contradiction
      | member named' known' _ takes' later =>
          obtain rfl := Option.some.inj (named.symm.trans named')
          obtain rfl := Option.some.inj (known.symm.trans known')
          obtain rfl := takes.unique takes'
          exact ih later

theorem fills_append : Fills fields filled (before ++ behind) finished ↔
    ∃ between, Fills fields filled before between ∧ Fills fields between behind finished := by
  constructor
  · intro fills
    induction before generalizing filled with
    | nil => exact ⟨filled, .done filled, fills⟩
    | cons member before ih =>
        cases fills with
        | passed named unknown later =>
            obtain ⟨between, first, second⟩ := ih later
            exact ⟨between, .passed named unknown first, second⟩
        | member named known free takes later =>
            obtain ⟨between, first, second⟩ := ih later
            exact ⟨between, .member named known free takes first, second⟩
  · rintro ⟨between, first, second⟩
    induction first with
    | done => exact second
    | passed named unknown _ ih => exact .passed named unknown (ih second)
    | member named known free takes _ ih => exact .member named known free takes (ih second)

/-- Two members that follow each other change places. -/
theorem Fills.swap (orderly : Orderly fields) {first second : Member}
    (fills : Fills fields filled (second :: first :: members) finished) :
    Fills fields filled (first :: second :: members) finished := by
  cases fills with
  | passed named unknown later =>
      cases later with
      | passed named' unknown' later =>
          exact .passed named' unknown' (.passed named unknown later)
      | member named' known' free takes later =>
          exact .member named' known' free takes (.passed named unknown later)
  | member named known free takes later =>
      cases later with
      | passed named' unknown' later =>
          exact .passed named' unknown' (.member named known free takes later)
      | member named' known' free' takes' later =>
          have apart := orderly.apart_of_free (List.mem_of_find?_eq_some known)
            (List.mem_of_find?_eq_some known') takes free'
          have freeBefore := (apart.spares takes filled).symm.trans free'
          have freeBehind := (apart.spared takes' filled).trans free
          rw [← apart.commute takes takes' filled] at later
          exact .member named' known' freeBefore takes'
            (.member named known freeBehind takes later)

/-- The order of the members makes no difference. -/
theorem Fills.perm (orderly : Orderly fields) (perm : members.Perm members')
    (fills : Fills fields filled members finished) :
    Fills fields filled members' finished := by
  induction perm generalizing filled with
  | nil => exact fills
  | cons member _ ih =>
      cases fills with
      | passed named unknown later => exact .passed named unknown (ih later)
      | member named known free takes later => exact .member named known free takes (ih later)
  | swap => exact fills.swap orderly
  | trans _ _ ih ih' => exact ih' (ih fills)

/-- A field may be filled behind the other members instead of before them. -/
theorem Fills.delay (orderly : Orderly fields) (known : field ∈ fields)
    (takes : field.reader.Takes tree update) (free : field.filled filled = false)
    (fills : Fills fields (update filled) members finished) :
    ∃ between, Fills fields filled members between ∧ field.filled between = false ∧
      finished = update between := by
  generalize start : update filled = started at fills
  induction fills generalizing filled with
  | done => exact ⟨filled, .done filled, free, start.symm⟩
  | passed named unknown _ ih =>
      obtain ⟨between, later, free, same⟩ := ih free start
      exact ⟨between, .passed named unknown later, free, same⟩
  | @member _ _ _ _ _ _ other update' named known' free' takes' _ ih =>
      subst start
      have apart := orderly.apart_of_free known (List.mem_of_find?_eq_some known') takes free'
      have freeBefore := (apart.spares takes filled).symm.trans free'
      have freeBehind := (apart.spared takes' filled).trans free
      obtain ⟨between, later, free, same⟩ := ih freeBehind (apart.commute takes takes' filled)
      exact ⟨between, .member named known' freeBefore takes' later, free, same⟩

/-- Without the member for a field the field stays free and the rest is as with it. -/
theorem Fills.drop (orderly : Orderly fields) (named : text? name = some text)
    (known : fields.find? (·.name == text) = some field)
    (fills : Fills fields filled (before ++ (name, tree) :: behind) finished) :
    ∃ between update, field.reader.Takes tree update ∧
      Fills fields filled (before ++ behind) between ∧ field.filled between = false ∧
      finished = update between := by
  cases fills.perm orderly List.perm_middle with
  | passed named' unknown _ =>
      obtain rfl := Option.some.inj (named.symm.trans named')
      rw [unknown] at known
      contradiction
  | @member _ _ _ _ _ _ _ update named' known' free takes later =>
      obtain rfl := Option.some.inj (named.symm.trans named')
      obtain rfl := Option.some.inj (known.symm.trans known')
      obtain ⟨between, others, free, same⟩ :=
        later.delay orderly (List.mem_of_find?_eq_some known) takes free
      exact ⟨between, update, takes, others, free, same⟩

/-- A member for no field may stand anywhere. -/
theorem Fills.insert (named : text? name = some text)
    (unknown : fields.find? (·.name == text) = none) (tree : Tree)
    (fills : Fills fields filled (before ++ behind) finished) :
    Fills fields filled (before ++ (name, tree) :: behind) finished := by
  obtain ⟨between, first, second⟩ := fills_append.mp fills
  exact fills_append.mpr ⟨between, first, .passed named unknown second⟩

/-- A member may hold another value that its field takes in the same way. -/
theorem Fills.replace (named : text? name = some text)
    (same : ∀ field, fields.find? (·.name == text) = some field → ∀ update,
      field.reader.Takes tree update → field.reader.Takes tree' update)
    (fills : Fills fields filled (before ++ (name, tree) :: behind) finished) :
    Fills fields filled (before ++ (name, tree') :: behind) finished := by
  obtain ⟨between, first, second⟩ := fills_append.mp fills
  refine fills_append.mpr ⟨between, first, ?_⟩
  cases second with
  | passed named' unknown later => exact .passed named' unknown later
  | member named' known free takes later =>
      obtain rfl := Option.some.inj (named.symm.trans named')
      exact .member named known free (same _ known _ takes) later

theorem Fills.takes_of_known (named : text? name = some text)
    (known : fields.find? (·.name == text) = some field)
    (fills : Fills fields filled (before ++ (name, tree) :: behind) finished) :
    ∃ update, field.reader.Takes tree update := by
  obtain ⟨between, _, second⟩ := fills_append.mp fills
  cases second with
  | passed named' unknown _ =>
      obtain rfl := Option.some.inj (named.symm.trans named')
      rw [unknown] at known
      contradiction
  | member named' known' _ takes _ =>
      obtain rfl := Option.some.inj (named.symm.trans named')
      obtain rfl := Option.some.inj (known.symm.trans known')
      exact ⟨_, takes⟩

end Fields

section Records

variable {draft value : Type} {shape : Shape draft value} {field : Field draft} {record : value}
  {name : List Piece} {text : String} {tree tree' : Tree}
  {members members' before behind : List Member}

theorem Shape.takes_perm (orderly : Orderly shape.fields) (perm : members.Perm members')
    (takes : shape.reader.Takes (.object members) record) :
    shape.reader.Takes (.object members') record := by
  obtain ⟨finished, fills, done⟩ := (Shape.takes_object_iff orderly.judges).mp takes
  exact Shape.takes_object (fills.perm orderly perm) done

theorem Shape.takes_insert (orderly : Orderly shape.fields) (named : text? name = some text)
    (unknown : shape.fields.find? (·.name == text) = none) (tree : Tree)
    (takes : shape.reader.Takes (.object (before ++ behind)) record) :
    shape.reader.Takes (.object (before ++ (name, tree) :: behind)) record := by
  obtain ⟨finished, fills, done⟩ := (Shape.takes_object_iff orderly.judges).mp takes
  exact Shape.takes_object (fills.insert named unknown tree) done

theorem Shape.takes_replace (orderly : Orderly shape.fields) (named : text? name = some text)
    (same : ∀ field, shape.fields.find? (·.name == text) = some field → ∀ update,
      field.reader.Takes tree update → field.reader.Takes tree' update)
    (takes : shape.reader.Takes (.object (before ++ (name, tree) :: behind)) record) :
    shape.reader.Takes (.object (before ++ (name, tree') :: behind)) record := by
  obtain ⟨finished, fills, done⟩ := (Shape.takes_object_iff orderly.judges).mp takes
  exact Shape.takes_object (fills.replace named same) done

/-- A member may be left out if the record is finished without it as with it. -/
theorem Shape.takes_drop (orderly : Orderly shape.fields) (named : text? name = some text)
    (known : shape.fields.find? (·.name == text) = some field)
    (same : ∀ update, field.reader.Takes tree update → ∀ filled, field.filled filled = false →
      shape.finish (update filled) = shape.finish filled)
    (takes : shape.reader.Takes (.object (before ++ (name, tree) :: behind)) record) :
    shape.reader.Takes (.object (before ++ behind)) record := by
  obtain ⟨finished, fills, done⟩ := (Shape.takes_object_iff orderly.judges).mp takes
  obtain ⟨between, update, held, others, free, rfl⟩ := fills.drop orderly named known
  exact Shape.takes_object others ((same update held between free).symm.trans done)

/-- A member may not be left out if no record is finished without it. -/
theorem Shape.not_takes_drop (orderly : Orderly shape.fields) (named : text? name = some text)
    (known : shape.fields.find? (·.name == text) = some field)
    (needed : ∀ filled, field.filled filled = false →
      ∃ missing, shape.finish filled = .error missing)
    (takes : shape.reader.Takes (.object (before ++ (name, tree) :: behind)) record) :
    ¬ ∃ other, shape.reader.Takes (.object (before ++ behind)) other := by
  rintro ⟨other, again⟩
  obtain ⟨finished, fills, _⟩ := (Shape.takes_object_iff orderly.judges).mp takes
  obtain ⟨between, update, _, others, free, _⟩ := fills.drop orderly named known
  obtain ⟨finished', fills', done⟩ := (Shape.takes_object_iff orderly.judges).mp again
  obtain ⟨missing, unfinished⟩ := needed between free
  obtain rfl := others.unique fills'
  rw [unfinished] at done
  contradiction

/-- A record is not taken if one of its members is not. -/
theorem Shape.not_takes_of_member (orderly : Orderly shape.fields) (named : text? name = some text)
    (known : shape.fields.find? (·.name == text) = some field)
    (untaken : ¬ ∃ update, field.reader.Takes tree update) :
    ¬ ∃ other, shape.reader.Takes (.object (before ++ (name, tree) :: behind)) other := by
  rintro ⟨other, takes⟩
  obtain ⟨finished, fills, _⟩ := (Shape.takes_object_iff orderly.judges).mp takes
  exact untaken (fills.takes_of_known named known)

end Records

section Entries

variable {α : Type} {reader : Reader α}

theorem Enters.perm {entries found : Dictionary α} {members members' : List Member}
    (perm : members.Perm members')
    (distinct : members.Pairwise fun member other => text? member.1 ≠ text? other.1)
    (enters : Enters reader entries members found) : Enters reader entries members' found := by
  induction perm generalizing entries with
  | nil => exact enters
  | cons member _ ih =>
      cases enters with
      | entry named takes later => exact .entry named takes (ih distinct.of_cons later)
  | swap =>
      cases enters with
      | entry named takes later =>
          cases later with
          | entry named' takes' later =>
              have different := (List.pairwise_cons.mp distinct).1 _ List.mem_cons_self
              rw [named, named'] at different
              rw [entries.insert_comm fun same => different (congrArg some same)] at later
              exact .entry named' takes' (.entry named takes later)
  | trans first _ ih ih' =>
      exact ih' ((first.pairwise_iff Ne.symm).mp distinct) (ih distinct enters)

theorem Reader.takes_dictionary_perm (judges : ∀ tree, reader.Judges tree)
    {members members' : List Member} {found : Dictionary α}
    (perm : members.Perm members')
    (distinct : members.Pairwise fun member other => text? member.1 ≠ text? other.1)
    (takes : (Reader.dictionary reader).Takes (.object members) found) :
    (Reader.dictionary reader).Takes (.object members') found := by
  rcases Reader.dictionary_cases judges (.object members) with
    ⟨_, entered, same, enters⟩ | declines
  · obtain rfl := Tree.object.inj same
    obtain rfl := takes.unique (Reader.takes_dictionary enters)
    exact Reader.takes_dictionary (enters.perm perm distinct)
  · exact absurd declines takes.not_declines

end Entries

end Json

end SignIn
