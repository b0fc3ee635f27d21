import SignIn.Proofs.Storage.Refinement
import SignIn.Storage.Temporary

/-!
# A write is all or nothing

Whatever tree a store in a file is in and whatever its path leads to, a write leaves the
new content in the place of the file or it leaves every file as it was.  Besides that it
may have made directories that were missing on the path.  This is so for every way in
which a step of the write fails: while directories are made, when the temporary file is
created, while it is filled, and when it takes the place of the old file.
-/

namespace SignIn

namespace FileTree

/-- A place that following the parts of a path comes by before their end. -/
def Passes (tree : FileTree) (path : Path) (place : Place) : Prop :=
  ∃ front, front <+: path.parts ∧ front ≠ path.parts ∧
    tree.walk (tree.origin path.absolute) front = .ok place

/-- What is in a place is what was there, or the place was free and is a directory on the
path. -/
def Spares (before after : FileTree) (path : Path) (place : Place) : Prop :=
  after.node? place = before.node? place ∨
    before.node? place = none ∧ after.node? place = some .directory ∧
      after.Passes path place

/-- The same tree but for directories in free places that some of the parts lead to. -/
structure Paves (absolute : Bool) (parts : List String) (tree later : FileTree) : Prop where
  working : later.working = tree.working
  nodes : ∀ place, later.node? place = tree.node? place ∨
    tree.node? place = none ∧ later.node? place = some .directory ∧
      ∃ front, front <+: parts ∧ later.walk (later.origin absolute) front = .ok place

variable {absolute : Bool} {parts : List String} {tree made later : FileTree} {place : Place}

theorem Paves.refl (absolute : Bool) (parts : List String) (tree : FileTree) :
    tree.Paves absolute parts tree where
  working := rfl
  nodes _ := .inl rfl

theorem Paves.extends (paved : Paves absolute parts tree later) : tree.Extends later where
  working := paved.working
  nodes place node there := by
    rcases paved.nodes place with same | ⟨free, -⟩
    · rw [same, there]
    · rw [free] at there
      contradiction

theorem Paves.trans {front : List String} (earlier : Paves absolute front tree made)
    (within : front <+: parts) (afterwards : Paves absolute parts made later) :
    Paves absolute parts tree later where
  working := afterwards.working.trans earlier.working
  nodes place := by
    have keeps := afterwards.extends.keepsDirectories
    rcases afterwards.nodes place with same | ⟨free, directory, reached⟩
    · rw [same]
      rcases earlier.nodes place with unchanged | ⟨free, directory, short, shorter, walked⟩
      · exact .inl unchanged
      · refine .inr ⟨free, directory, short, shorter.trans within, ?_⟩
        rw [origin_eq keeps]
        exact walk_mono keeps walked
    · refine .inr ⟨?_, directory, reached⟩
      rcases earlier.nodes place with same | ⟨free, -⟩
      · rw [← same, free]
      · exact free

theorem goal_eq_name (reached : tree.goal absolute parts = .ok (.name place)) :
    ∃ front last start, parts = front ++ [last] ∧ place = start ++ [last] ∧
      last ≠ "." ∧ last ≠ ".." ∧ faultOfName? last = none ∧
      tree.walk (tree.origin absolute) front = .ok start := by
  have nonempty : parts ≠ [] := by
    rintro rfl
    cases absolute <;> simp [goal] at reached
  obtain ⟨front, last, rfl⟩ : ∃ front last, parts = front ++ [last] :=
    ⟨_, _, (List.dropLast_concat_getLast nonempty).symm⟩
  rw [goal_concat] at reached
  split at reached
  · contradiction
  · cases walked : tree.walk (tree.origin absolute) front with
    | error fault => simp [walked] at reached
    | ok start =>
        simp only [walked] at reached
        split at reached
        · simp at reached
        · rename_i notDot
          split at reached
          · simp at reached
          · rename_i notUp
            split at reached
            · contradiction
            · rename_i sound
              have named : start ++ [last] = place := by simpa using reached
              exact ⟨front, last, start, rfl, named.symm, notDot, notUp, sound, walked⟩

/-- A name that parts lead to is reached by them once a directory is there. -/
theorem walk_of_goal (reached : tree.goal absolute parts = .ok (.name place))
    (keeps : tree.KeepsDirectories later) (there : later.node? place = some .directory) :
    later.walk (later.origin absolute) parts = .ok place := by
  obtain ⟨front, last, start, rfl, rfl, notDot, notUp, sound, walked⟩ := goal_eq_name reached
  rw [origin_eq keeps, walk_append, walk_mono keeps walked]
  simp only [walk, if_neg notDot, if_neg notUp, sound, there]

theorem paves_makeDirectory (making : tree.makeDirectory absolute parts = .ok made) :
    tree.Paves absolute parts made := by
  unfold makeDirectory at making
  split at making
  · contradiction
  · contradiction
  · rename_i place reached
    split at making
    · contradiction
    · rename_i free
      obtain rfl : tree.put place .directory = made := by simpa using making
      have below := goal_name_ne_nil reached
      refine ⟨rfl, fun other => ?_⟩
      by_cases same : other = place
      · subst same
        have there := node?_put_same tree below .directory
        have keeps := (extends_put free .directory).keepsDirectories
        exact .inr ⟨free, there, parts, List.prefix_rfl, walk_of_goal reached keeps there⟩
      · exact .inl (node?_put_of_ne tree .directory same)

theorem paves_ensureDirectory (tree : FileTree) (absolute : Bool) (parts : List String) :
    tree.Paves absolute parts (tree.ensureDirectory absolute parts).1 := by
  unfold ensureDirectory
  split
  · rename_i making
    exact paves_makeDirectory making
  · exact Paves.refl absolute parts tree

/-- Whatever comes of making directories, only missing ones on the way are added. -/
theorem paves_makeDirectories (tree : FileTree) (absolute : Bool) (parts : List String) :
    tree.Paves absolute parts (tree.makeDirectories absolute parts).1 := by
  fun_induction makeDirectories tree absolute parts with
  | case1 => exact Paves.refl absolute [] tree
  | case2 parts nonempty missing made fault above ih =>
      rw [above] at ih
      exact ih.trans (List.dropLast_prefix parts) (Paves.refl absolute parts made)
  | case3 parts nonempty missing made above ih =>
      rw [above] at ih
      exact ih.trans (List.dropLast_prefix parts) (paves_ensureDirectory made absolute parts)
  | case4 parts nonempty present => exact paves_ensureDirectory tree absolute parts

/-- A proper front of the plain parts leads where a proper front of the parts as they are
written does. -/
theorem exists_front_of_plainParts {path : Path} {front : List String}
    (within : front <+: path.plainParts) (proper : front ≠ path.plainParts) :
    ∃ written, written <+: path.parts ∧ written ≠ path.parts ∧
      ∀ tree start, walk tree start written = walk tree start front := by
  -- Filtering commutes with taking a front, and dots at the front are passed over.
  unfold Path.plainParts at within proper
  split at within
  · rename_i rest written
    rw [written] at proper
    rw [written]
    have whole {front kept : List String} (proper : front ≠ rest.filter (· != "."))
        (cut : front = kept.filter (· != ".")) : "." :: kept ≠ "." :: rest := by
      rintro same
      obtain rfl := (List.cons.inj same).2
      exact proper cut
    by_cases rooted : path.absolute = true
    · simp only [rooted, if_true] at within proper
      obtain ⟨kept, short, cut⟩ := List.prefix_filter_iff.mp within
      refine ⟨"." :: kept, List.cons_prefix_cons.mpr ⟨rfl, short⟩, whole proper cut, ?_⟩
      intro tree start
      rw [cut, walk_filter, walk, if_pos rfl]
    · simp only [rooted, Bool.false_eq_true, if_false] at within proper
      cases front with
      | nil => exact ⟨[], List.nil_prefix, by simp, fun _ _ => rfl⟩
      | cons first others =>
          obtain ⟨rfl, others_within⟩ := List.cons_prefix_cons.mp within
          obtain ⟨kept, short, cut⟩ := List.prefix_filter_iff.mp others_within
          have proper : others ≠ rest.filter (· != ".") := fun same => proper (by rw [same])
          refine ⟨"." :: kept, List.cons_prefix_cons.mpr ⟨rfl, short⟩, whole proper cut, ?_⟩
          intro tree start
          rw [cut, walk, walk, if_pos rfl, if_pos rfl, walk_filter]
  · obtain ⟨kept, short, cut⟩ := List.prefix_filter_iff.mp within
    refine ⟨kept, short, ?_, fun tree start => by rw [cut, walk_filter]⟩
    rintro rfl
    simp_all

theorem makeDirectories_dot (tree : FileTree) (absolute : Bool) :
    tree.makeDirectories absolute ["."] = (tree, .ok ()) := by
  apply makeDirectories_of_isDirectory
  rw [isDirectory_iff tree absolute (by simp)]
  exact ⟨rfl, tree.origin absolute, rfl⟩

theorem spares_makeDirectories (tree : FileTree) (path : Path) (place : Place) :
    tree.Spares (tree.makeDirectories path.absolute path.above).1 path place := by
  by_cases dot : path.above = ["."]
  · rw [dot, makeDirectories_dot]
    exact .inl rfl
  · have above : path.above = path.plainParts.dropLast ∧ path.plainParts ≠ [] := by
      unfold Path.above at dot ⊢
      split
      · rename_i nothing
        simp only [nothing] at dot ⊢
        split at dot
        · rename_i named
          simp_all
        · contradiction
      · rename_i some
        exact ⟨rfl, fun none => some (by rw [none]; rfl)⟩
    have paved := paves_makeDirectories tree path.absolute path.above
    rcases paved.nodes place with same | ⟨free, directory, front, within, walked⟩
    · exact .inl same
    · rw [above.1] at within
      have proper : front ≠ path.plainParts := by
        rintro rfl
        have shorter := within.length_le
        have := List.length_pos_iff.mpr above.2
        rw [List.length_dropLast] at shorter
        omega
      obtain ⟨written, short, notAll, same⟩ :=
        exists_front_of_plainParts (within.trans (List.dropLast_prefix _)) proper
      exact .inr ⟨free, directory, written, short, notAll, by rw [same, walked]⟩

theorem spares_makeAbove (tree : FileTree) (path : Path) (place : Place) :
    tree.Spares (tree.makeAbove path).1 path place := by
  rcases tree.makeAbove_cases path with ⟨fault, -, same⟩ | same
  · rw [same]
    exact .inl rfl
  · rw [same]
    exact tree.spares_makeDirectories path place

/-- A file put in a free place and removed again leaves no trace. -/
theorem remove_put_of_free (free : tree.node? place = none) (node : Node) :
    (tree.put place node).remove place = tree := by
  have below : place ≠ [] := by
    rintro rfl
    contradiction
  have absent : tree.nodes.filter (·.1 != place) = tree.nodes := by
    rw [List.filter_eq_self]
    simp only [node?, if_neg below, Option.map_eq_none_iff, List.find?_eq_none] at free
    simpa using free
  simp [remove, put, absent]

theorem put_put_same (tree : FileTree) (place : Place) (first second : Node) :
    (tree.put place first).put place second = tree.put place second := by
  simp [put]

theorem createIn_ok {directory : Path} {name : String} {created : FileTree}
    (creating : tree.createIn directory name = .ok (place, created)) :
    tree.reach (tree.inside directory name) = .ok (.name place) ∧
      tree.node? place = none ∧ created = tree.put place (.file []) := by
  unfold createIn at creating
  split at creating
  · contradiction
  · contradiction
  · rename_i other reached
    split at creating
    · contradiction
    · rename_i free
      obtain ⟨rfl, rfl⟩ : other = place ∧ tree.put other (.file []) = created := by
        simpa using creating
      exact ⟨reached, free, rfl⟩

theorem keepsDirectories_of_put_file (free : tree.node? place = none) (content : Octets) :
    (tree.put place (.file content)).KeepsDirectories tree where
  working := rfl
  directories other there := by
    have below : place ≠ [] := by
      rintro rfl
      contradiction
    have different : other ≠ place := by
      rintro rfl
      simp [node?_put_same tree below] at there
    rwa [node?_put_of_ne tree _ different] at there

/-- A temporary file that takes the place of a file leaves what the finished file would
leave if it were put there at once. -/
theorem replace_of_moveTo {path : Path} {content : Octets} {replaced : FileTree}
    (free : tree.node? place = none) (below : place ≠ [])
    (moved : (tree.put place (.file content)).moveTo place path = .ok replaced) :
    tree.replace path content = .ok replaced := by
  unfold moveTo at moved
  split at moved
  · contradiction
  · contradiction
  · rename_i target reached
    split at moved
    · contradiction
    · rename_i plain
      rw [node?_put_same tree below, remove_put_of_free free] at moved
      have before := reach_mono (keepsDirectories_of_put_file free content) reached
      simp only [replace, before, if_neg plain]
      split
      · rename_i directory
        -- A directory in the target is there with the temporary file as well.
        have still := (extends_put free (.file content)).nodes target _ directory
        simp [still] at moved
      · split at moved
        · contradiction
        · contradiction
        · simp_all

/-- Nor does it keep a path that does not name it from a place. -/
theorem walk_put_of_not_mem {above : Place} {name : String} {node : Node}
    (unnamed : name ∉ parts) (start : Place) :
    (tree.put (above ++ [name]) node).walk start parts = tree.walk start parts := by
  induction parts generalizing start with
  | nil => rfl
  | cons part parts ih =>
      obtain ⟨different, unnamed⟩ : name ≠ part ∧ name ∉ parts := by simpa using unnamed
      have elsewhere : start ++ [part] ≠ above ++ [name] := by
        intro same
        exact different (List.singleton_inj.mp (List.append_inj_right' same rfl)).symm
      rw [walk, walk, node?_put_of_ne tree node elsewhere, ih unnamed, ih unnamed, ih unnamed]

theorem reach_put_of_not_mem {above : Place} {name : String} {node : Node} {path : Path}
    (unnamed : name ∉ path.parts) :
    (tree.put (above ++ [name]) node).reach path = tree.reach path := by
  have front : name ∉ path.parts.dropLast :=
    fun member => unnamed (List.dropLast_subset _ member)
  simp only [reach, goal, walk_put_of_not_mem front]
  rfl

/-- A temporary file of a name that the path does not have takes the place of the file
exactly as the finished file would if it were put there at once. -/
theorem moveTo_eq_replace {above : Place} {name : String} {path : Path} {content : Octets}
    (free : tree.node? (above ++ [name]) = none) (unnamed : name ∉ path.parts) :
    (tree.put (above ++ [name]) (.file content)).moveTo (above ++ [name]) path =
      tree.replace path content := by
  rw [moveTo, replace, reach_put_of_not_mem unnamed]
  cases reached : tree.reach path with
  | error fault => rfl
  | ok goal =>
      cases goal with
      | directory target => rfl
      | name target =>
          obtain ⟨front, last, start, written, rfl, -⟩ :=
            goal_eq_name (reach_eq_ok_iff.mp reached).2
          have elsewhere : start ++ [last] ≠ above ++ [name] := by
            intro same
            obtain rfl := List.singleton_inj.mp (List.append_inj_right' same rfl)
            exact unnamed (by simp [written])
          have below : above ++ [name] ≠ [] := by simp
          simp only [node?_put_of_ne tree _ elsewhere, node?_put_same tree below,
            remove_put_of_free free]
          split
          · rfl
          · cases tree.node? (start ++ [last]) with
            | none => rfl
            | some node => cases node <;> rfl

theorem isDirectory_ensureDirectory
    (ensured : tree.ensureDirectory absolute parts = (made, .ok ())) :
    made.isDirectory absolute parts = true := by
  unfold ensureDirectory at ensured
  split at ensured
  · rename_i new making
    obtain rfl : new = made := by simpa using ensured
    have keeps := (extends_makeDirectory making).keepsDirectories
    unfold makeDirectory at making
    split at making
    · contradiction
    · contradiction
    · rename_i place reached
      split at making
      · contradiction
      · obtain rfl : tree.put place .directory = new := by simpa using making
        have there := node?_put_same tree (goal_name_ne_nil reached) .directory
        simp [isDirectory, goal_mono keeps reached, there]
  · rename_i failed
    obtain ⟨rfl, there⟩ : tree = made ∧ tree.isDirectory absolute parts = true := by
      simpa using ensured
    exact there

/-- Directories that could be made are there afterwards. -/
theorem walk_makeDirectories_ok
    (making : tree.makeDirectories absolute parts = (made, .ok ())) :
    hasNul parts = false ∧ ∃ place, made.walk (made.origin absolute) parts = .ok place := by
  by_cases nonempty : parts = []
  · subst nonempty
    exact ⟨rfl, made.origin absolute, rfl⟩
  · rw [← isDirectory_iff made absolute nonempty]
    unfold makeDirectories at making
    rw [if_neg nonempty] at making
    split at making
    · split at making
      · simp at making
      · exact isDirectory_ensureDirectory making
    · exact isDirectory_ensureDirectory making

end FileTree

namespace TemporaryName

theorem utf8ByteSize_ofList {letters : List Char}
    (ascii : letters.all (·.toNat < 0x80) = true) :
    (String.ofList letters).utf8ByteSize = letters.length := by
  induction letters with
  | nil => rfl
  | cons letter letters ih =>
      obtain ⟨range, others⟩ : letter.toNat < 0x80 ∧
          letters.all (·.toNat < 0x80) = true := by
        simpa only [List.all_cons, Bool.and_eq_true, decide_eq_true_eq] using ascii
      have one : letter.utf8Size = 1 := by
        have : letter.toNat = letter.val.toNat := rfl
        rw [Char.utf8Size_eq_one_iff, UInt32.le_iff_toNat_le]
        simp
        omega
      rw [String.ofList_cons, String.utf8ByteSize_append, String.utf8ByteSize_singleton, one,
        ih others, List.length_cons, Nat.add_comm]

variable (name : TemporaryName)

theorem utf8ByteSize_text : name.text.utf8ByteSize = 10 := by
  have ascii : name.letters.all (·.toNat < 0x80) = true := by
    rw [List.all_eq_true]
    intro letter member
    have code := Utf8.toNat_of_isAlphanum (List.all_eq_true.mp name.alphanumeric letter member)
    simp
    omega
  rw [text, String.utf8ByteSize_append, utf8ByteSize_ofList ascii, name.length_letters]
  rfl

theorem faultOfName?_text : FileTree.faultOfName? name.text = none := by
  simp [FileTree.faultOfName?, utf8ByteSize_text]

theorem hasNul_text : FileTree.hasNul [name.text] = false := by
  have letters : '\x00' ∉ name.letters := by
    intro member
    have := List.all_eq_true.mp name.alphanumeric _ member
    contradiction
  simp [FileTree.hasNul, text, letters]

/-- Whether the path of a temporary file is too long does not hang on its name. -/
theorem fault?_inside (tree : FileTree) {path : Path}
    (sound : FileTree.hasNul (path.above ++ [name.text]) = false) :
    (tree.inside path.directory name.text).fault? =
      if tree.hasRoom path then none else some .nameTooLong := by
  have named : (tree.inside path.directory name.text).text.utf8ByteSize =
      (tree.inside path.directory ".tmpXXXXXX").text.utf8ByteSize :=
    FileTree.utf8ByteSize_join_congr _ name.utf8ByteSize_text
  have parts : (tree.inside path.directory name.text).parts.any (·.toList.contains '\x00') =
      false := sound
  rw [Path.fault?, parts, named]
  by_cases fits : (tree.inside path.directory ".tmpXXXXXX").text.utf8ByteSize ≤ Path.limit
  · simp [FileTree.hasRoom, fits]
  · simp [FileTree.hasRoom, fits, Nat.lt_of_not_le fits]

theorem text_ne {other : String} (size : other.utf8ByteSize ≠ 10) : name.text ≠ other := by
  rintro rfl
  exact size name.utf8ByteSize_text

end TemporaryName

namespace FileTree

variable {tree made later : FileTree} {path : Path} {place : Place}

theorem Spares.of_keepsDirectories (spared : tree.Spares made path place)
    (keeps : made.KeepsDirectories later) (same : later.node? place = made.node? place) :
    tree.Spares later path place := by
  unfold Spares
  rw [same]
  rcases spared with unchanged | ⟨free, directory, front, within, proper, walked⟩
  · exact .inl unchanged
  · refine .inr ⟨free, directory, front, within, proper, ?_⟩
    rw [origin_eq keeps]
    exact walk_mono keeps walked

/-- What putting a finished file in its place does. -/
theorem replace_ok {content : Octets} (put : tree.replace path content = .ok later) :
    ∃ target, tree.reach path = .ok (.name target) ∧
      tree.node? target ≠ some .directory ∧ later = tree.put target (.file content) := by
  unfold replace at put
  split at put
  · contradiction
  · contradiction
  · rename_i target reached
    split at put
    · contradiction
    · split at put
      · contradiction
      · rename_i noDirectory
        have result : tree.put target (.file content) = later := by simpa using put
        exact ⟨target, reached, fun there => noDirectory there, result.symm⟩

end FileTree

namespace FileStore

/-- What a write may come to.  Either the file that the path leads to has the written form
of the entries, which is read as these, and every other place holds what it held or is a
directory that was missing on the path; or this is so of all places and an error is
reported. -/
inductive AllOrNothing (store : FileStore) (entries : Entries) :
    FileStore × Except StoreError Unit → Prop
  | all {tree : FileTree} {target : Place} {content : Octets}
      (reached : tree.reach (.ofText store.path) = .ok (.name target))
      (noDirectory : store.tree.node? target ≠ some .directory)
      (written : tree.node? target = some (.file content))
      (read : tree.read (.ofText store.path) = .ok content)
      (printed : content = Utf8.encode entries.print)
      (decoded : Entries.decode content = .ok entries)
      (others : ∀ place, place ≠ target →
        store.tree.Spares tree (.ofText store.path) place)
      (working : tree.working = store.tree.working) :
      AllOrNothing store entries ({ store with tree }, .ok ())
  | nothing {tree : FileTree} {error : StoreError}
      (spared : ∀ place, store.tree.Spares tree (.ofText store.path) place)
      (working : tree.working = store.tree.working) :
      AllOrNothing store entries ({ store with tree }, .error error)

variable {store : FileStore} {entries : Entries} {made replaced : FileTree}

/-- A write that ends once directories have been made changes no file. -/
theorem allOrNothing_of_made {outcome : Except MediumFault Unit}
    (making : store.tree.makeAbove (.ofText store.path) = (made, outcome))
    (error : StoreError) :
    AllOrNothing store entries ({ store with tree := made }, .error error) := by
  have spared := store.tree.spares_makeAbove (.ofText store.path)
  have extended := store.tree.extends_makeAbove (.ofText store.path)
  rw [making] at spared extended
  exact .nothing spared extended.working

/-- A finished file that takes its place changes that place only. -/
theorem allOrNothing_of_replaced {outcome : Except MediumFault Unit}
    (making : store.tree.makeAbove (.ofText store.path) = (made, outcome))
    (put : made.replace (.ofText store.path) (Utf8.encode entries.print) = .ok replaced) :
    AllOrNothing store entries ({ store with tree := replaced }, .ok ()) := by
  have spared := store.tree.spares_makeAbove (.ofText store.path)
  have extended := store.tree.extends_makeAbove (.ofText store.path)
  rw [making] at spared extended
  obtain ⟨target, reached, noDirectory, rfl⟩ := FileTree.replace_ok put
  have below := FileTree.goal_name_ne_nil (FileTree.reach_eq_ok_iff.mp reached).2
  have keeps := FileTree.keepsDirectories_put noDirectory (.file (Utf8.encode entries.print))
  refine .all (FileTree.reach_mono keeps reached) ?_ (made.node?_put_same below _)
    (FileTree.read_replace put) rfl (Entries.decode_print entries) ?_
    (keeps.working.trans extended.working)
  · exact fun there => noDirectory (extended.nodes target _ there)
  · exact fun place other =>
      (spared place).of_keepsDirectories keeps (made.node?_put_of_ne _ other)

theorem allOrNothing_write (store : FileStore) (entries : Entries) :
    AllOrNothing store entries (store.write entries) := by
  have outcome := store.written_write entries
  generalize store.write entries = result at outcome
  cases outcome with
  | same error => exact .nothing (fun place => .inl rfl) rfl
  | made error => exact allOrNothing_of_made rfl error
  | replaced room put => exact allOrNothing_of_replaced rfl put

theorem allOrNothing_writeThrough (store : FileStore) (name : TemporaryName)
    (filling : Filling) (entries : Entries) :
    AllOrNothing store entries (store.writeThrough name filling entries) := by
  simp only [writeThrough]
  split
  · rename_i making
    exact allOrNothing_of_made making _
  · rename_i making
    split
    · exact allOrNothing_of_made making _
    · rename_i place created creating
      obtain ⟨reached, free, rfl⟩ := FileTree.createIn_ok creating
      have below := FileTree.goal_name_ne_nil (FileTree.reach_eq_ok_iff.mp reached).2
      cases filling with
      | broken part fault =>
          simp only [FileTree.put_put_same, FileTree.remove_put_of_free free]
          exact allOrNothing_of_made making _
      | whole =>
          simp only [FileTree.put_put_same]
          split
          · rw [FileTree.remove_put_of_free free]
            exact allOrNothing_of_made making _
          · rename_i moved
            exact allOrNothing_of_replaced making
              (FileTree.replace_of_moveTo free below moved)

/-- A name that no part of the path has and nothing in the directory of the file. -/
structure Fresh (store : FileStore) (name : TemporaryName) : Prop where
  unnamed : name.text ∉ (Path.ofText store.path).parts
  free : ∀ place,
    let made := (store.tree.makeAbove (.ofText store.path)).1
    made.walk (made.origin (Path.ofText store.path).directory.absolute)
        (Path.ofText store.path).above = .ok place →
      made.node? (place ++ [name.text]) = none

theorem walk_directory_of_makeAbove
    (making : store.tree.makeAbove (.ofText store.path) = (made, .ok ())) :
    FileTree.hasNul (Path.ofText store.path).above = false ∧
      ∃ place, made.walk (made.origin (Path.ofText store.path).directory.absolute)
        (Path.ofText store.path).above = .ok place := by
  by_cases nothing : (Path.ofText store.path).plainParts = []
  · have dot : (Path.ofText store.path).above = ["."] := by simp [Path.above, nothing]
    rw [dot]
    exact ⟨rfl, _, rfl⟩
  · have same : (Path.ofText store.path).directory.absolute =
        (Path.ofText store.path).absolute := by simp [Path.directory, nothing]
    rw [same]
    rcases store.tree.makeAbove_cases (.ofText store.path) with ⟨fault, -, failed⟩ | whole
    · rw [failed] at making
      simp at making
    · exact FileTree.walk_makeDirectories_ok (whole.symm.trans making)

/-- Where the directory of a file could be made, a temporary file of a fresh name can be
created in it if there is room. -/
theorem Fresh.createIn {name : TemporaryName} (fresh : store.Fresh name)
    (making : store.tree.makeAbove (.ofText store.path) = (made, .ok ())) :
    ∃ place, made.node? (place ++ [name.text]) = none ∧
      made.createIn (Path.ofText store.path).directory name.text =
        if made.hasRoom (.ofText store.path) then
          .ok (place ++ [name.text], made.put (place ++ [name.text]) (.file []))
        else .error .nameTooLong := by
  obtain ⟨noNul, place, walked⟩ := walk_directory_of_makeAbove making
  have free := fresh.free place
  simp only [making] at free
  specialize free walked
  have sound : FileTree.hasNul ((Path.ofText store.path).above ++ [name.text]) = false := by
    have last := name.hasNul_text
    simp only [FileTree.hasNul, List.any_append] at noNul last ⊢
    rw [noNul, last]
    rfl
  have notDot : name.text ≠ "." := name.text_ne (by decide)
  have notUp : name.text ≠ ".." := name.text_ne (by decide)
  have reached : made.goal (Path.ofText store.path).directory.absolute
      ((Path.ofText store.path).directory.parts ++ [name.text]) =
        .ok (.name (place ++ [name.text])) := by
    rw [FileTree.goal_concat, Path.directory, sound]
    simp only [Path.directory] at walked
    simp only [walked, if_neg notDot, if_neg notUp, name.faultOfName?_text]
    rfl
  have fault := name.fault?_inside made sound
  refine ⟨place, free, ?_⟩
  cases room : made.hasRoom (.ofText store.path) with
  | false =>
      simp only [room, Bool.false_eq_true, if_false] at fault ⊢
      simp only [FileTree.createIn, FileTree.reach, fault]
  | true =>
      simp only [room, if_true] at fault ⊢
      simp only [FileTree.createIn, FileTree.reach, fault]
      simp only [FileTree.inside, reached, free]

/-- By way of a temporary file of a fresh name the write comes to what it comes to when the
finished file is put in its place at once.  Without room for the file it leaves the
directories that it has made. -/
theorem writeThrough_eq_write {name : TemporaryName} (fresh : store.Fresh name)
    (entries : Entries) :
    (store.writeThrough name .whole entries).2 = (store.write entries).2 ∧
      (store.tree.hasRoom (.ofText store.path) = true →
        store.writeThrough name .whole entries = store.write entries) := by
  cases making : store.tree.makeAbove (.ofText store.path) with
  | mk made outcome =>
      have extended := store.tree.extends_makeAbove (.ofText store.path)
      rw [making] at extended
      have sameRoom := FileTree.hasRoom_congr extended.working (.ofText store.path)
      cases outcome with
      | error fault => simp only [writeThrough, write, making, implies_true, and_self]
      | ok done =>
          obtain ⟨place, free, creating⟩ := fresh.createIn making
          cases room : made.hasRoom (.ofText store.path) with
          | false =>
              refine ⟨?_, fun there => ?_⟩
              · simp only [writeThrough, write, making, creating, room, Bool.false_eq_true,
                  if_false]
                split <;> rfl
              · rw [← sameRoom, room] at there
                contradiction
          | true =>
              have same : store.writeThrough name .whole entries = store.write entries := by
                cases put : made.replace (Path.ofText store.path) (Utf8.encode entries.print) <;>
                  simp only [writeThrough, write, making, creating, room, if_true,
                    FileTree.put_put_same, put, FileTree.moveTo_eq_replace free fresh.unnamed,
                    FileTree.remove_put_of_free free]
              exact ⟨congrArg _ same, fun _ => same⟩

/-- Only where there is room for the new file does a write succeed. -/
theorem hasRoom_of_write_ok (succeeded : (store.write entries).2 = .ok ()) :
    store.tree.hasRoom (.ofText store.path) = true := by
  have outcome := store.written_write entries
  generalize store.write entries = result at outcome succeeded
  cases outcome with
  | same => contradiction
  | made => contradiction
  | replaced room put =>
      rwa [FileTree.hasRoom_congr (store.tree.extends_makeAbove _).working] at room

/-- For every tree, every path and all entries a write is all or nothing, also by way of a
temporary file of any name and however filling it comes out; by way of one that was filled
it comes to the same.  Where the file is there and can be read, the write succeeds exactly if
there is room for a temporary file beside it. -/
theorem write_all_or_nothing (store : FileStore) (entries : Entries) :
    AllOrNothing store entries (store.write entries) ∧
      (∀ name filling, AllOrNothing store entries (store.writeThrough name filling entries)) ∧
      (∀ name, store.Fresh name →
        (store.writeThrough name .whole entries).2 = (store.write entries).2 ∧
          (store.tree.hasRoom (.ofText store.path) = true →
            store.writeThrough name .whole entries = store.write entries)) ∧
      (∀ content, store.tree.read (.ofText store.path) = .ok content →
        ((store.write entries).2 = .ok () ↔ store.tree.hasRoom (.ofText store.path) = true)) := by
  refine ⟨store.allOrNothing_write entries,
    fun name filling => store.allOrNothing_writeThrough name filling entries,
    fun name fresh => writeThrough_eq_write fresh entries,
    fun content read => ⟨hasRoom_of_write_ok, fun room => ?_⟩⟩
  obtain ⟨after, written⟩ := store.exists_write_of_read read room entries
  rw [written]

/-- A session file among others is replaced, and by way of a temporary file it is the same. -/
theorem write_all_or_nothing_replacing :
    let store : FileStore :=
      ⟨"state/session.json", ⟨[(["state"], .directory), (["state", "session.json"], .file [0x7B]),
        (["state", "other"], .file [0x6F])], []⟩⟩
    let name : TemporaryName := ⟨"a1b2C3".toList, rfl, by decide⟩
    store.tree.read (.ofText store.path) = .ok [0x7B] ∧ store.Fresh name ∧
      store.tree.hasRoom (.ofText store.path) = true ∧ (store.write .empty).2 = .ok () ∧
      store.writeThrough name .whole .empty = store.write .empty ∧
      AllOrNothing store .empty (store.write .empty) := by
  intro store name
  let target : Path := ⟨"state/session.json", false, ["state", "session.json"], false⟩
  have parsed : Path.ofText store.path = target := by decide +kernel
  have read : store.tree.read (.ofText store.path) = .ok [0x7B] := by
    have sound : target.fault? = none := by decide +kernel
    rw [parsed]
    simp only [FileTree.read, FileTree.reach, sound]
    rfl
  have room : store.tree.hasRoom (.ofText store.path) = true := by
    rw [parsed]
    decide +kernel
  have made : store.tree.makeAbove target = (store.tree, .ok ()) := by
    have sound : target.directory.fault? = none := by decide +kernel
    simp only [FileTree.makeAbove, sound]
    exact FileTree.makeDirectories_of_isDirectory rfl
  have fresh : store.Fresh name := by
    constructor
    · rw [parsed]
      decide
    · rw [parsed, made]
      rintro place files walked
      obtain rfl : ["state"] = place := Except.ok.inj walked
      decide
  obtain ⟨whole, -, same, succeeds⟩ := write_all_or_nothing store .empty
  exact ⟨read, fresh, room, (succeeds _ read).mpr room, (same name fresh).2 room, whole⟩

/-- The letters of a path that goes into a directory and out of it again, with slashes in
between. -/
def detour (slashes : Nat) (rest : List Char) : List Char :=
  'd' :: List.replicate (slashes + 1) '/' ++ rest

section Detour

variable (slashes : Nat)

theorem splitOn_detour (rest : List Char) :
    (detour slashes rest).splitOn '/' =
      ['d'] :: (List.replicate slashes [] ++ rest.splitOn '/') := by
  have idle (count : Nat) : (List.replicate count '/' ++ rest).splitOn '/' =
      List.replicate count [] ++ rest.splitOn '/' := by
    induction count with
    | zero => rfl
    | succ count ih =>
        rw [List.replicate_succ, List.replicate_succ, List.cons_append, List.cons_append, ← ih]
        simp [List.splitOn, List.splitOnP_cons_eq_if_modifyHead]
  have after := idle (slashes + 1)
  rw [detour, List.cons_append]
  rw [List.splitOn] at after ⊢
  rw [List.splitOnP_cons_eq_if_modifyHead, after]
  simp [List.replicate_succ, List.splitOn]

theorem utf8ByteSize_detour {rest : List Char} (ascii : rest.all (·.toNat < 0x80) = true) :
    (String.ofList (detour slashes rest)).utf8ByteSize = slashes + 2 + rest.length := by
  have whole : (detour slashes rest).all (·.toNat < 0x80) = true := by
    simp [detour, ascii]
  rw [TemporaryName.utf8ByteSize_ofList whole]
  simp [detour]
  omega

theorem ofText_detour :
    Path.ofText (String.ofList (detour slashes ['.', '.', '/', 's'])) =
      ⟨String.ofList (detour slashes ['.', '.', '/', 's']), false, ["d", "..", "s"], false⟩ := by
  have rest : ['.', '.', '/', 's'].splitOn '/' = [['.', '.'], ['s']] := by decide
  have last : (detour slashes ['.', '.', '/', 's']).getLast? = some 's' := by
    rw [detour, List.getLast?_append]
    rfl
  simp only [Path.ofText, String.toList_ofList, splitOn_detour, rest, last]
  simp [detour]

theorem aboveText_detour :
    (Path.ofText (String.ofList (detour slashes ['.', '.', '/', 's']))).aboveText =
      String.ofList (detour slashes ['.', '.']) := by
  have rest : ['.', '.', '/', 's'].splitOn '/' = [['.', '.'], ['s']] := by decide
  have above : ['d'] :: (List.replicate slashes [] ++ [['.', '.']]) =
      (detour slashes ['.', '.']).splitOn '/' := by
    have rest : ['.', '.'].splitOn '/' = [['.', '.']] := by decide
    rw [splitOn_detour, rest]
  rw [ofText_detour]
  simp only [Path.aboveText, String.toList_ofList, splitOn_detour, rest]
  simp [above, List.intercalate_splitOn]

end Detour

/-- Not every file that can be read can be written: the path of the file may be short enough
where that of a file beside it is not. -/
theorem not_forall_write_of_read :
    ¬ ∀ (store : FileStore) content entries,
      store.tree.read (.ofText store.path) = .ok content →
        (store.write entries).2 = .ok () := by
  intro writes
  obtain ⟨slashes, many⟩ : ∃ slashes, slashes = 4085 := ⟨4085, rfl⟩
  let tree : FileTree := { nodes := [(["d"], .directory), (["s"], .file [0x7B])] }
  let path := String.ofList (detour slashes ['.', '.', '/', 's'])
  have read : tree.read (.ofText path) = .ok [0x7B] := by
    have sound : (Path.ofText path).fault? = none := by
      rw [FileTree.fault?_eq_none_iff, ofText_detour, utf8ByteSize_detour slashes (by decide), many]
      exact ⟨by decide, by decide⟩
    simp only [FileTree.read, FileTree.reach, sound]
    rw [ofText_detour]
    rfl
  have cramped : tree.hasRoom (.ofText path) = false := by
    have named : (Path.ofText path).directory.text.utf8ByteSize = slashes + 2 + 2 := by
      rw [Path.directory, aboveText_detour, utf8ByteSize_detour slashes (by decide)]
      rfl
    have longer := tree.utf8ByteSize_le_rooted (Path.ofText path).directory
    have := FileTree.utf8ByteSize_join (tree.rooted (Path.ofText path).directory) ".tmpXXXXXX"
    have name : ".tmpXXXXXX".utf8ByteSize = 10 := rfl
    apply decide_eq_false
    show ¬ (Path.join (tree.rooted (Path.ofText path).directory) ".tmpXXXXXX").utf8ByteSize ≤ 4095
    omega
  have room := hasRoom_of_write_ok (writes ⟨path, tree⟩ [0x7B] .empty read)
  rw [cramped] at room
  contradiction

end FileStore

end SignIn
