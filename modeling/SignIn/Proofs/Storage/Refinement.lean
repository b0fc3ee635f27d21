import SignIn.Proofs.Storage.Stored
import SignIn.Stage.Step

/-!
# A store in a file against a store in memory

A store in a file that is not there yet can be told from an empty store in memory by none
of its calls.  Until the first write the missing file stands for no entries; from then on
it holds the entries of the other store in written form, so that it makes no difference
when the file is opened anew.
-/

namespace SignIn

namespace FileTree

/-- A path leads to a free place, in a directory that is there or can be made and has room
for a file. -/
structure Awaits (tree : FileTree) (path : Path) : Prop where
  unslashed : path.slashed = false
  creatable : (tree.makeAbove path).2 = .ok ()
  room : tree.hasRoom path = true
  free : ∃ place, (tree.makeAbove path).1.reach path = .ok (.name place) ∧
    (tree.makeAbove path).1.node? place = none

/-- A path leads to a file, whatever is in it, that has room for another one beside it, or to
a place that awaits a file. -/
def Admits (tree : FileTree) (path : Path) : Prop :=
  (tree.hasRoom path = true ∧ ∃ content, tree.read path = .ok content) ∨ tree.Awaits path

/-- Where a walk ends only when more directories are there, one of these was missing. -/
theorem walk_eq_noEntry {tree later : FileTree} (extended : tree.Extends later)
    {start place : Place} {parts : List String} {fault : MediumFault}
    (walked : later.walk start parts = .ok place)
    (failed : tree.walk start parts = .error fault) : fault = .noEntry := by
  induction parts generalizing start with
  | nil => contradiction
  | cons part parts ih =>
      rw [walk] at walked failed
      by_cases dot : part = "."
      · rw [if_pos dot] at walked failed
        exact ih walked failed
      · rw [if_neg dot] at walked failed
        by_cases up : part = ".."
        · rw [if_pos up] at walked failed
          exact ih walked failed
        · rw [if_neg up] at walked failed
          cases named : faultOfName? part with
          | some other =>
              rw [named] at walked
              contradiction
          | none =>
              rw [named] at walked failed
              cases there : tree.node? (start ++ [part]) with
              | none => simpa [there] using failed.symm
              | some node =>
                  simp only [there, extended.nodes _ _ there] at walked failed
                  cases node with
                  | directory => exact ih walked failed
                  | file content => contradiction

/-- A path that leads to a free place once directories have been made led there before, or
something was missing on the way. -/
theorem goal_eq_noEntry {tree later : FileTree} (extended : tree.Extends later)
    {absolute : Bool} {parts : List String} {goal : Goal} {fault : MediumFault}
    (reached : later.goal absolute parts = .ok goal)
    (failed : tree.goal absolute parts = .error fault) : fault = .noEntry := by
  unfold FileTree.goal at failed reached
  rw [origin_eq extended.keepsDirectories] at reached
  split at failed
  · rename_i nul
    rw [if_pos nul] at reached
    contradiction
  · rename_i sound
    rw [if_neg sound] at reached
    split at failed
    · rename_i none
      rw [none] at reached
      split at reached <;> simp_all
    · rename_i last found
      simp only [found] at reached
      split at failed
      · rename_i stopped
        split at reached
        · contradiction
        · rename_i walked
          obtain rfl := Except.error.inj failed
          exact walk_eq_noEntry extended walked stopped
      · rename_i walked
        rw [walk_mono extended.keepsDirectories walked] at reached
        exact absurd (failed.symm.trans reached) (by simp)

theorem Awaits.read {tree : FileTree} {path : Path} (awaits : tree.Awaits path) :
    tree.read path = .error .noEntry := by
  obtain ⟨place, reached, free⟩ := awaits.free
  have extended := tree.extends_makeAbove path
  generalize (tree.makeAbove path).1 = made at reached free extended
  obtain ⟨sound, later⟩ := reach_eq_ok_iff.mp reached
  have missing : tree.node? place = none := by
    cases there : tree.node? place with
    | none => rfl
    | some node =>
        rw [extended.nodes _ _ there] at free
        contradiction
  cases followed : tree.goal path.absolute path.parts with
  | ok goal =>
      have same := goal_mono extended.keepsDirectories followed
      obtain rfl : goal = .name place := by simpa [later] using same.symm
      simp only [FileTree.read, reach, sound, followed, missing]
  | error fault =>
      simp only [FileTree.read, reach, sound, followed, goal_eq_noEntry extended later followed]

theorem makeDirectories_of_isDirectory {tree : FileTree} {absolute : Bool}
    {parts : List String} (there : tree.isDirectory absolute parts = true) :
    tree.makeDirectories absolute parts = (tree, .ok ()) := by
  have occupied : tree.makeDirectory absolute parts = .error .occupied := by
    unfold isDirectory at there
    unfold makeDirectory
    split at there
    · contradiction
    · rfl
    · simp only [of_decide_eq_true there]
  unfold makeDirectories
  split
  · rfl
  · simp [occupied, ensureDirectory, there]

end FileTree

namespace FileStore

/-- A file that can be read can be written if there is room for another one beside it. -/
theorem exists_write_of_read (store : FileStore) {content : Octets}
    (read : store.tree.read (.ofText store.path) = .ok content)
    (room : store.tree.hasRoom (.ofText store.path) = true) (entries : Entries) :
    ∃ after, store.write entries = (after, .ok ()) := by
  obtain ⟨place, reached, there, plain⟩ : ∃ place,
      store.tree.reach (.ofText store.path) = .ok (.name place) ∧
        store.tree.node? place = some (.file content) ∧
          ¬ (Path.ofText store.path).slashed = true := by
    have held := read
    unfold FileTree.read at held
    split at held
    · contradiction
    · contradiction
    · rename_i place reached
      split at held
      · contradiction
      · contradiction
      · rename_i there
        split at held
        · contradiction
        · rename_i plain
          obtain rfl := Except.ok.inj held
          exact ⟨place, reached, there, plain⟩
  have made : store.tree.makeAbove (.ofText store.path) = (store.tree, .ok ()) := by
    have sound := FileTree.fault?_directory (FileTree.reach_eq_ok_iff.mp reached).1 room
    simp only [FileTree.makeAbove, sound]
    by_cases nothing : (Path.ofText store.path).above = []
    · rw [nothing, FileTree.makeDirectories, if_pos rfl]
    · exact FileTree.makeDirectories_of_isDirectory
        (FileTree.isDirectory_above_of_read read nothing)
  have replaced : ∃ tree, store.tree.replace (Path.ofText store.path)
      (Utf8.encode entries.print) = .ok tree := by
    simp only [FileTree.replace, reached, there, if_neg plain]
    exact ⟨_, rfl⟩
  obtain ⟨tree, put⟩ := replaced
  exact ⟨{ store with tree }, by simp only [write, made, room, put, if_true]⟩

theorem exists_write_of_awaits (store : FileStore)
    (awaits : store.tree.Awaits (.ofText store.path)) (entries : Entries) :
    ∃ after, store.write entries = (after, .ok ()) := by
  obtain ⟨place, reached, free⟩ := awaits.free
  have made : store.tree.makeAbove (.ofText store.path) =
      ((store.tree.makeAbove (.ofText store.path)).1, .ok ()) :=
    Prod.ext rfl awaits.creatable
  have room : (store.tree.makeAbove (.ofText store.path)).1.hasRoom (.ofText store.path) =
      true := by
    rw [FileTree.hasRoom_congr (store.tree.extends_makeAbove _).working, awaits.room]
  rw [write, made]
  simp only [room, if_true, FileTree.replace, reached, awaits.unslashed, free]
  exact ⟨_, rfl⟩

/-- After a write that succeeds the file has the written form of what was written, and there
is room for the next one. -/
theorem tree_read_write {store after : FileStore} {entries : Entries}
    (written : store.write entries = (after, .ok ())) :
    after.path = store.path ∧
      after.tree.read (.ofText store.path) = .ok (Utf8.encode entries.print) ∧
        after.tree.hasRoom (.ofText store.path) = true := by
  have outcome := store.written_write entries
  rw [written] at outcome
  cases outcome with
  | replaced room put =>
      rw [← FileTree.hasRoom_congr (FileTree.working_of_replace put)] at room
      exact ⟨rfl, FileTree.read_replace put, room⟩

end FileStore

namespace Backing

/-- A store in a file that is there or can be made takes every write, and is there after it. -/
theorem exists_write_of_admits {path : String} {tree : FileTree}
    (admits : tree.Admits (.ofText path)) (entries : Entries) :
    ∃ later, (file path tree).write entries = (file path later, .ok ()) ∧
      later.Admits (.ofText path) := by
  obtain ⟨after, written⟩ :
      ∃ after, FileStore.write { path, tree } entries = (after, .ok ()) := by
    rcases admits with ⟨room, content, read⟩ | awaits
    · exact FileStore.exists_write_of_read { path, tree } read room entries
    · exact FileStore.exists_write_of_awaits { path, tree } awaits entries
  obtain ⟨same, read, room⟩ := FileStore.tree_read_write written
  obtain ⟨afterPath, later⟩ := after
  obtain rfl : afterPath = path := same
  refine ⟨later, ?_, .inl ⟨room, _, read⟩⟩
  simp [file, write, Medium.write, written]

inductive Use where
  | call (step : Stage.StoreStep)
  | reopen

/-- Whether a use is one that every kind of store knows: to save, load or clear a session,
to read or write all entries, or to open the store anew. -/
def Use.isPlain : Use → Bool
  | .call (.save _) | .call .clear | .call .load | .call .readAll | .call (.writeAll _) => true
  | .reopen => true
  | _ => false

/-- Whether a use writes to the store. -/
def Use.writes : Use → Bool
  | .call (.save _) | .call .clear | .call (.writeAll _) => true
  | _ => false

def reopen (backing : Backing) : Backing :=
  match backing.medium with
  | .memory store => .memory store.entries
  | .file store => .file store.path store.tree

def Use.play (backing : Backing) : Use → Backing × Stage.Outcome
  | .call step => step.play backing
  | .reopen => (backing.reopen, .done)

/-- The store after some uses, and what each of them returned. -/
def playAll (backing : Backing) : List Use → Backing × List Stage.Outcome
  | [] => (backing, [])
  | use :: uses =>
    let (backing, outcome) := use.play backing
    let (backing, outcomes) := backing.playAll uses
    (backing, outcome :: outcomes)

/-- A store in a file and one in memory that hold the same.  The file can be written at any
time.  Until it has been written both stores are as they were at first, and from then on the
file has the written form of the entries in memory. -/
structure Mirrors (path : String) (tree : FileTree) (written : Bool)
    (inFile inMemory : Backing) : Prop where
  place : ∃ later, inFile = .file path later
  held : ∃ entries, inMemory = .memory entries
  read : inFile.read = inMemory.read
  writable : ∀ entries, (inFile.write entries).2 = .ok ()
  unwritten : written = false → inFile = .file path tree ∧ inMemory = .memory .empty
  content : written = true →
    inFile.tree.read (.ofText path) = .ok (Utf8.encode inMemory.entries.print)

theorem mirrors_start {path : String} {tree : FileTree} (awaits : tree.Awaits (.ofText path)) :
    Mirrors path tree false (.file path tree) (.memory .empty) where
  place := ⟨tree, rfl⟩
  held := ⟨.empty, rfl⟩
  read := by
    show FileStore.read { path, tree } = .ok .empty
    rw [FileStore.read, awaits.read]
  writable entries := by
    obtain ⟨after, written⟩ :=
      FileStore.exists_write_of_awaits { path, tree } awaits entries
    simp [Backing.file, write, Medium.write, written]
  unwritten _ := ⟨rfl, rfl⟩
  content written := by contradiction

namespace Mirrors

variable {path : String} {tree : FileTree} {written : Bool} {inFile inMemory : Backing}

theorem load (mirrors : Mirrors path tree written inFile inMemory) :
    inFile.load = inMemory.load := by
  rw [Backing.load, Backing.load, mirrors.read]

theorem kept (mirrors : Mirrors path tree written inFile inMemory) :
    inFile.kept = inMemory.kept := by
  rw [Backing.kept, Backing.kept, mirrors.read]

theorem write (mirrors : Mirrors path tree written inFile inMemory) (entries : Entries) :
    (inFile.write entries).2 = (inMemory.write entries).2 ∧
      Mirrors path tree true (inFile.write entries).1 (inMemory.write entries).1 := by
  obtain ⟨before, rfl⟩ := mirrors.place
  obtain ⟨earlier, rfl⟩ := mirrors.held
  have succeeded := mirrors.writable entries
  cases stored : FileStore.write { path, tree := before } entries with
  | mk after outcome =>
  have whole : (Backing.file path before).write entries = ({ medium := .file after }, outcome) := by
    simp [Backing.file, Backing.write, Medium.write, stored]
  rw [whole] at succeeded ⊢
  obtain rfl : outcome = .ok () := succeeded
  obtain ⟨same, content, room⟩ := FileStore.tree_read_write stored
  obtain ⟨afterPath, afterTree⟩ := after
  obtain rfl : afterPath = path := same
  refine ⟨rfl, ⟨afterTree, rfl⟩, ⟨entries, rfl⟩, ?_, ?_, by simp, fun _ => content⟩
  · exact FileStore.read_of_tree_read content
  · intro later
    obtain ⟨next, again⟩ :=
      FileStore.exists_write_of_read ⟨afterPath, afterTree⟩ content room later
    simp [Backing.write, Medium.write, again]

theorem reopen (mirrors : Mirrors path tree written inFile inMemory) :
    Mirrors path tree written inFile.reopen inMemory.reopen := by
  obtain ⟨later, rfl⟩ := mirrors.place
  obtain ⟨entries, rfl⟩ := mirrors.held
  exact mirrors

/-- Every use returns the same for both stores and leaves them holding the same. -/
theorem play (mirrors : Mirrors path tree written inFile inMemory) {use : Use}
    (plain : use.isPlain = true) :
    (use.play inFile).2 = (use.play inMemory).2 ∧
      Mirrors path tree (written || use.writes) (use.play inFile).1 (use.play inMemory).1 := by
  have unread : Mirrors path tree (written || false) inFile inMemory := by
    rw [Bool.or_false]
    exact mirrors
  cases use with
  | reopen =>
      refine ⟨rfl, ?_⟩
      show Mirrors path tree (written || false) inFile.reopen inMemory.reopen
      exact unread.reopen
  | call step =>
      cases step with
      | save session =>
          obtain ⟨same, after⟩ := mirrors.write (inMemory.kept.withSession session)
          simp only [Use.play, Stage.StoreStep.play, save, mirrors.kept, same, Use.writes,
            Bool.or_true]
          exact ⟨trivial, after⟩
      | clear =>
          obtain ⟨same, after⟩ := mirrors.write inMemory.kept.withoutSession
          simp only [Use.play, Stage.StoreStep.play, clear, mirrors.kept, same, Use.writes,
            Bool.or_true]
          exact ⟨trivial, after⟩
      | writeAll entries =>
          obtain ⟨same, after⟩ := mirrors.write entries
          simp only [Use.play, Stage.StoreStep.play, same, Use.writes, Bool.or_true]
          exact ⟨trivial, after⟩
      | load =>
          simp only [Use.play, Stage.StoreStep.play, mirrors.load, Use.writes]
          exact ⟨trivial, unread⟩
      | readAll =>
          simp only [Use.play, Stage.StoreStep.play, mirrors.read, Use.writes]
          exact ⟨trivial, unread⟩
      | _ => contradiction

theorem playAll (mirrors : Mirrors path tree written inFile inMemory) {uses : List Use}
    (plain : ∀ use ∈ uses, use.isPlain = true) :
    (inFile.playAll uses).2 = (inMemory.playAll uses).2 ∧
      Mirrors path tree (written || uses.any Use.writes) (inFile.playAll uses).1
        (inMemory.playAll uses).1 := by
  induction uses generalizing written inFile inMemory with
  | nil => simpa [Backing.playAll] using mirrors
  | cons use uses ih =>
      obtain ⟨same, after⟩ := mirrors.play (plain use (List.mem_cons_self ..))
      obtain ⟨rest, ended⟩ := ih after fun other member =>
        plain other (List.mem_cons_of_mem use member)
      rw [Bool.or_assoc] at ended
      simp only [Backing.playAll, same, rest, List.any_cons]
      exact ⟨trivial, ended⟩

end Mirrors

/-- Whatever is done to a store in a file that is not there yet returns what it returns for an
empty store in memory, and the two are read alike.  As long as nothing has been written no
file has been touched; afterwards the file decodes to exactly the entries in memory. -/
theorem file_refines_memory {path : String} {tree : FileTree}
    (awaits : tree.Awaits (.ofText path)) (uses : List Use)
    (plain : ∀ use ∈ uses, use.isPlain = true) :
    let inFile := (Backing.file path tree).playAll uses
    let inMemory := (Backing.memory .empty).playAll uses
    inFile.2 = inMemory.2 ∧ inFile.1.read = .ok inMemory.1.entries ∧
      if uses.any Use.writes then
        ∃ content, inFile.1.tree.read (.ofText path) = .ok content ∧
          Entries.decode content = .ok inMemory.1.entries
      else inFile.1.tree = tree ∧ inMemory.1.entries = .empty := by
  intro inFile inMemory
  obtain ⟨same, mirrors⟩ := (mirrors_start awaits).playAll plain
  rw [Bool.false_or] at mirrors
  refine ⟨same, ?_, ?_⟩
  · obtain ⟨entries, held⟩ := mirrors.held
    rw [mirrors.read, held]
    rfl
  · split
    · rename_i written
      exact ⟨_, mirrors.content written, Entries.decode_print _⟩
    · rename_i unwritten
      obtain ⟨file, memory⟩ := mirrors.unwritten (by simpa using unwritten)
      exact ⟨by rw [file]; rfl, by rw [memory]; rfl⟩

/-- A store in a directory that has to be made first gives a session back to whoever opens
it anew. -/
theorem file_refines_memory_in_new_directory :
    let session : SignedIn :=
      ⟨"token", ⟨1, "alice", "", "", "", "", []⟩, { reputation := 3 }⟩
    let uses : List Use := [.call .load, .call (.save session), .reopen, .call .load]
    let path := "state/session.json"
    ({} : FileTree).Awaits (.ofText path) ∧
      ((Backing.file path {}).playAll uses).2 = ((Backing.memory .empty).playAll uses).2 ∧
      ((Backing.file path {}).playAll uses).1.read =
        .ok ((Backing.memory .empty).playAll uses).1.entries := by
  intro session uses path
  have awaits : ({} : FileTree).Awaits (.ofText path) := by
    let target : Path := ⟨"state/session.json", false, ["state", "session.json"], false⟩
    have parsed : Path.ofText path = target := by decide +kernel
    have free : ({} : FileTree).makeDirectory false ["state"] =
        .ok (({} : FileTree).put ["state"] .directory) := rfl
    have made : ({} : FileTree).makeDirectories false ["state"] =
        (({} : FileTree).put ["state"] .directory, .ok ()) := by
      simp [FileTree.makeDirectories, FileTree.ensureDirectory, free]
    have sound : target.directory.fault? = none := by decide +kernel
    have whole : ({} : FileTree).makeAbove target =
        (({} : FileTree).put ["state"] .directory, .ok ()) := by
      simp only [FileTree.makeAbove, sound]
      exact made
    rw [parsed]
    refine ⟨rfl, by rw [whole], by decide +kernel, ["state", "session.json"], ?_, ?_⟩
    · rw [whole]
      exact FileTree.reach_eq_ok_iff.mpr ⟨by decide +kernel, rfl⟩
    · rw [whole]
      rfl
  have refines := file_refines_memory awaits uses (by decide)
  exact ⟨awaits, refines.1, refines.2.1⟩

end Backing

end SignIn
