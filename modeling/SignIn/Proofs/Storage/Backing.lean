import SignIn.Proofs.Storage.FileTree
import SignIn.Proofs.Codec

/-!
# What a store holds

A store holds some entries whether or not it refuses to be read at present; a file that
cannot be read holds none.  A write that succeeds leaves exactly what was written, and a
write that fails leaves the entries as they were, even if it has made directories.
-/

namespace SignIn

namespace FileStore

def entries (store : FileStore) : Entries :=
  store.read.toOption.getD .empty

theorem read_of_tree_read {store : FileStore} {entries : Entries}
    (held : store.tree.read (.ofText store.path) = .ok (Utf8.encode entries.print)) :
    store.read = .ok entries := by
  rw [read, held]
  simp only [Utf8.decode?_encode, Entries.decode_print]
  rfl

theorem entries_of_tree_read_error {store : FileStore} {fault : MediumFault}
    (unread : store.tree.read (.ofText store.path) = .error fault) :
    store.entries = .empty := by
  unfold entries read
  rw [unread]
  cases fault <;> rfl

/-- What may come of a write: nothing, directories above a place where nothing is read, or a
new file. -/
inductive Written (store : FileStore) (entries : Entries) :
    FileStore × Except StoreError Unit → Prop
  | same (error : StoreError) : Written store entries (store, .error error)
  | made (error : StoreError)
      (before : ∃ fault, store.tree.read (.ofText store.path) = .error fault)
      (after : ∃ fault, (store.tree.makeAbove (.ofText store.path)).1.read (.ofText store.path) =
        .error fault) :
      Written store entries
        ({ store with tree := (store.tree.makeAbove (.ofText store.path)).1 }, .error error)
  | replaced {tree : FileTree}
      (room : (store.tree.makeAbove (.ofText store.path)).1.hasRoom (.ofText store.path) = true)
      (put : (store.tree.makeAbove (.ofText store.path)).1.replace (.ofText store.path)
        (Utf8.encode entries.print) = .ok tree) :
      Written store entries ({ store with tree }, .ok ())

theorem written_write (store : FileStore) (entries : Entries) :
    Written store entries (store.write entries) := by
  have extended := store.tree.extends_makeAbove (.ofText store.path)
  have made {fault : MediumFault} (error : StoreError)
      (after : (store.tree.makeAbove (.ofText store.path)).1.read (.ofText store.path) =
        .error fault) :
      Written store entries
        ({ store with tree := (store.tree.makeAbove (.ofText store.path)).1 }, .error error) := by
    refine .made error ?_ ⟨fault, after⟩
    -- what is read in a tree is read in a larger one as well
    cases before : store.tree.read (.ofText store.path) with
    | error fault => exact ⟨fault, rfl⟩
    | ok content =>
        rw [FileTree.read_mono extended before] at after
        contradiction
  simp only [write]
  split
  · rename_i tree fault making
    rcases store.tree.makeAbove_cases (.ofText store.path) with ⟨_, -, same⟩ | same
    · obtain ⟨rfl, -⟩ := Prod.mk.inj (making.symm.trans same)
      exact .same _
    · have blocked := FileTree.read_of_makeDirectories_error (same.symm.trans making)
      obtain rfl : (store.tree.makeAbove (.ofText store.path)).1 = tree := congrArg (·.1) making
      exact .made _ blocked.1 blocked.2
  · rename_i tree making
    obtain rfl : (store.tree.makeAbove (.ofText store.path)).1 = tree := congrArg (·.1) making
    split
    · rename_i room
      split
      · rename_i refused
        obtain ⟨fault, after⟩ := FileTree.read_of_replace_error refused
        exact made _ after
      · rename_i put
        exact .replaced room put
    · split
      · exact .same _
      · rename_i after
        exact made _ after

theorem read_write {store after : FileStore} {entries : Entries}
    (written : store.write entries = (after, .ok ())) : after.read = .ok entries := by
  have outcome := store.written_write entries
  rw [written] at outcome
  cases outcome with
  | replaced room put => exact read_of_tree_read (FileTree.read_replace put)

theorem entries_write_error {store after : FileStore} {entries : Entries}
    {error : StoreError} (failed : store.write entries = (after, .error error)) :
    after.entries = store.entries := by
  have outcome := store.written_write entries
  rw [failed] at outcome
  cases outcome with
  | same => rfl
  | made _ before after =>
      obtain ⟨⟨_, before⟩, ⟨_, after⟩⟩ := And.intro before after
      rw [entries_of_tree_read_error before]
      exact entries_of_tree_read_error after

/-- A write that fails takes nothing away from the files. -/
theorem extends_write_error {store after : FileStore} {entries : Entries}
    {error : StoreError} (failed : store.write entries = (after, .error error)) :
    store.tree.Extends after.tree := by
  have outcome := store.written_write entries
  rw [failed] at outcome
  cases outcome with
  | same => exact FileTree.Extends.refl store.tree
  | made => exact store.tree.extends_makeAbove (.ofText store.path)

end FileStore

namespace Medium

def entries (medium : Medium) : Entries :=
  medium.read.toOption.getD .empty

theorem read_write {medium after : Medium} {entries : Entries}
    (written : medium.write entries = (after, .ok ())) : after.read = .ok entries := by
  cases medium with
  | memory store =>
      obtain rfl : Medium.memory { entries } = after := by
        simpa [write, MemoryStore.write] using written
      rfl
  | file store =>
      cases stored : store.write entries with
      | mk left outcome =>
          obtain ⟨rfl, rfl⟩ : Medium.file left = after ∧ outcome = .ok () := by
            simpa [write, stored] using written
          exact FileStore.read_write stored

theorem entries_write_error {medium after : Medium} {entries : Entries}
    {error : StoreError} (failed : medium.write entries = (after, .error error)) :
    after.entries = medium.entries := by
  cases medium with
  | memory store => simp [write, MemoryStore.write] at failed
  | file store =>
      cases stored : store.write entries with
      | mk left outcome =>
          obtain ⟨rfl, rfl⟩ : Medium.file left = after ∧ outcome = .error error := by
            simpa [write, stored] using failed
          exact FileStore.entries_write_error stored

end Medium

namespace Backing

def entries (backing : Backing) : Entries :=
  backing.medium.entries

@[simp]
theorem entries_refuse (backing : Backing) (refusal : Refusal) :
    (backing.refuse refusal).entries = backing.entries :=
  rfl

theorem entries_write {backing after : Backing} {entries : Entries}
    (written : backing.write entries = (after, .ok ())) : after.entries = entries := by
  unfold write at written
  split at written
  · simp at written
  · simp only [Prod.mk.injEq] at written
    obtain ⟨rfl, succeeded⟩ := written
    have read := Medium.read_write (Prod.ext rfl succeeded)
    simp [Backing.entries, Medium.entries, read, Except.toOption]

theorem read_write {backing after : Backing} {entries : Entries}
    (written : backing.write entries = (after, .ok ()))
    (readable : after.refusal.read = false) : after.read = .ok entries := by
  unfold write at written
  split at written
  · simp at written
  · simp only [Prod.mk.injEq] at written
    obtain ⟨rfl, succeeded⟩ := written
    have read := Medium.read_write (Prod.ext rfl succeeded)
    simp only at readable
    rw [Backing.read, readable]
    exact read

theorem entries_write_error {backing after : Backing} {entries : Entries}
    {error : StoreError} (failed : backing.write entries = (after, .error error)) :
    after.entries = backing.entries := by
  unfold write at failed
  split at failed
  · simp only [Prod.mk.injEq] at failed
    rw [← failed.1]
  · simp only [Prod.mk.injEq] at failed
    obtain ⟨rfl, refused⟩ := failed
    exact Medium.entries_write_error (Prod.ext rfl refused)

/-- A write that fails takes nothing away from the files that the store is among. -/
theorem extends_write_error {backing after : Backing} {entries : Entries}
    {error : StoreError} (failed : backing.write entries = (after, .error error)) :
    backing.tree.Extends after.tree := by
  unfold write at failed
  split at failed
  · obtain ⟨rfl, _⟩ := Prod.mk.inj failed
    exact FileTree.Extends.refl backing.tree
  · obtain ⟨rfl, refused⟩ := Prod.mk.inj failed
    cases held : backing.medium with
    | memory store => simp [held, MemoryStore.write] at refused
    | file store =>
        have written : store.write entries = ((store.write entries).1, .error error) := by
          simp only [held] at refused
          exact Prod.ext rfl refused
        simp only [tree, held]
        exact FileStore.extends_write_error written

@[simp]
theorem refusal_write (backing : Backing) (entries : Entries) :
    (backing.write entries).1.refusal = backing.refusal := by
  unfold write
  split <;> rfl

end Backing

end SignIn
