import SignIn.Storage.Backing

/-!
# Writing by way of a temporary file

The file of a store is never written in its own place.  The new content goes to a
temporary file in the same directory, which then takes the place of the old file in one
step.  A temporary file that cannot be filled, or cannot take the place, is removed.
-/

namespace SignIn

/-- The name of a temporary file: six letters or digits after a fixed beginning. -/
structure TemporaryName where
  letters : List Char
  length_letters : letters.length = 6
  alphanumeric : letters.all (·.isAlphanum) = true

def TemporaryName.text (name : TemporaryName) : String :=
  ".tmp" ++ String.ofList name.letters

/-- What comes of filling a temporary file: all the content is in it, or as much as there
was before the medium failed. -/
inductive Filling where
  | whole
  | broken (part : Octets) (fault : MediumFault)
  deriving DecidableEq, Repr

namespace FileTree

/-- Makes an empty file of a new name in a directory, and says where it is. -/
def createIn (tree : FileTree) (directory : Path) (name : String) :
    Except MediumFault (Place × FileTree) :=
  match tree.reach (tree.inside directory name) with
  | .error fault => .error fault
  | .ok (.directory _) => .error .isDirectory
  | .ok (.name place) =>
    match tree.node? place with
    | some _ => .error .occupied
    | none => .ok (place, tree.put place (.file []))

/-- Moves what is in a place to where a path leads, in place of a file that was there. -/
def moveTo (tree : FileTree) (place : Place) (path : Path) : Except MediumFault FileTree :=
  match tree.reach path with
  | .error fault => .error fault
  | .ok (.directory _) => .error .busy
  | .ok (.name target) =>
    if path.slashed then .error .notDirectory
    else
      match tree.node? target, tree.node? place with
      | some .directory, _ => .error .isDirectory
      | _, none => .error .noEntry
      | _, some node => .ok ((tree.remove place).put target node)

end FileTree

namespace FileStore

/-- The store with the file replaced, step by step: directories above the file are made, a
temporary file of a name is created and filled, and it takes the place of the file.  The
temporary file is gone once its failure has been reported. -/
def writeThrough (store : FileStore) (name : TemporaryName) (filling : Filling)
    (entries : Entries) : FileStore × Except StoreError Unit :=
  let path := Path.ofText store.path
  match store.tree.makeAbove path with
  | (tree, .error fault) => ({ store with tree }, .error (.medium fault))
  | (tree, .ok ()) =>
    match tree.createIn path.directory name.text with
    | .error fault => ({ store with tree }, .error (.medium fault))
    | .ok (place, created) =>
      match filling with
      | .broken part fault =>
        let filled := created.put place (.file part)
        ({ store with tree := filled.remove place }, .error (.medium fault))
      | .whole =>
        let filled := created.put place (.file (Utf8.encode entries.print))
        match filled.moveTo place path with
        | .error fault =>
          ({ store with tree := filled.remove place }, .error (.notReplaced fault))
        | .ok replaced => ({ store with tree := replaced }, .ok ())

end FileStore

end SignIn
