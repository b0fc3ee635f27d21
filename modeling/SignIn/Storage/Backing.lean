import SignIn.Storage.FileTree
import SignIn.Json.Reader
import SignIn.Json.Printer

/-!
# Stores of texts under names

A store holds texts under names and is read and replaced as a whole.  One kind keeps
them in memory; the other keeps them as one object in a file, which is written
elsewhere first and then put in its place, so that a reader finds the old texts or the
new ones.  A store of either kind may refuse to be read or to be written for a while.
-/

namespace SignIn

/-- Texts under names. -/
abbrev Entries := Dictionary String

namespace Entries

def decode (document : Octets) : Except Json.DecodeError Entries :=
  (Json.Reader.dictionary .text).decode document

def print (entries : Entries) : String :=
  Json.printLines (entries.toList.map fun entry => (entry.1, Json.printText entry.2))

end Entries

/-- A store in memory. -/
structure MemoryStore where
  entries : Entries := .empty
  deriving DecidableEq, Repr

namespace MemoryStore

def read (store : MemoryStore) : Except StoreError Entries :=
  .ok store.entries

def write (_ : MemoryStore) (entries : Entries) : MemoryStore × Except StoreError Unit :=
  ({ entries }, .ok ())

end MemoryStore

/-- A store in a file of a tree. -/
structure FileStore where
  path : String
  tree : FileTree := {}
  deriving DecidableEq, Repr

namespace FileStore

/-- All entries of the file; a file that is not there has none. -/
def read (store : FileStore) : Except StoreError Entries :=
  match store.tree.read (.ofText store.path) with
  | .error .noEntry => .ok .empty
  | .error fault => .error (.medium fault)
  | .ok content =>
    match Utf8.decode? content with
    | none => .error (.medium .notText)
    | some _ => (Entries.decode content).mapError .unreadable

/-- The store with the file replaced.  Directories above the file are made first, and the
new file needs room beside the old one. -/
def write (store : FileStore) (entries : Entries) :
    FileStore × Except StoreError Unit :=
  let path := Path.ofText store.path
  match store.tree.makeAbove path with
  | (tree, .error fault) => ({ store with tree }, .error (.medium fault))
  | (tree, .ok ()) =>
    if tree.hasRoom path then
      match tree.replace path (Utf8.encode entries.print) with
      | .error fault => ({ store with tree }, .error (.notReplaced fault))
      | .ok replaced => ({ store with tree := replaced }, .ok ())
    else
      match tree.read path with
      -- where there is an old file no directory was missing; a path that leads through a missing
      -- directory and out of it again is left aside
      | .ok _ => (store, .error (.medium .nameTooLong))
      | .error _ => ({ store with tree }, .error (.medium .nameTooLong))

end FileStore

/-- A store of either kind. -/
inductive Medium where
  | memory (store : MemoryStore)
  | file (store : FileStore)
  deriving DecidableEq, Repr

namespace Medium

def read : Medium → Except StoreError Entries
  | memory store => store.read
  | file store => store.read

/-- The store with all entries replaced, or as far as that got. -/
def write (medium : Medium) (entries : Entries) : Medium × Except StoreError Unit :=
  match medium with
  | memory store =>
    let (store, outcome) := store.write entries
    (memory store, outcome)
  | file store =>
    let (store, outcome) := store.write entries
    (file store, outcome)

end Medium

/-- What a store refuses to do. -/
structure Refusal where
  read : Bool := false
  write : Bool := false
  deriving DecidableEq, Repr

/-- A store and what it refuses to do at present. -/
structure Backing where
  medium : Medium
  refusal : Refusal := {}
  deriving DecidableEq, Repr

namespace Backing

/-- A store in memory. -/
def memory (entries : Entries) (refusal : Refusal := {}) : Backing :=
  { medium := .memory { entries }, refusal }

/-- A store in a file. -/
def file (path : String) (tree : FileTree) : Backing :=
  { medium := .file { path, tree } }

def read (backing : Backing) : Except StoreError Entries :=
  if backing.refusal.read then .error (.medium (.refused "read"))
  else backing.medium.read

/-- The store with all entries replaced, or as far as that got. -/
def write (backing : Backing) (entries : Entries) : Backing × Except StoreError Unit :=
  if backing.refusal.write then (backing, .error (.medium (.refused "write")))
  else
    let (medium, outcome) := backing.medium.write entries
    ({ backing with medium }, outcome)

/-- The store when it refuses other things than before. -/
def refuse (backing : Backing) (refusal : Refusal) : Backing :=
  { backing with refusal }

/-- The files that a store is among; a store in memory is among none. -/
def tree (backing : Backing) : FileTree :=
  match backing.medium with
  | .memory _ => {}
  | .file store => store.tree

end Backing

end SignIn
