import SignIn.Storage.Error

/-!
# Trees of files

Directories and files by their place, and the few operations a store needs: reading
a file, making the directories above a place, and putting a finished file in a
place in one step.  A path is followed part by part, and every part but the last must
be a directory.
-/

namespace SignIn

/-- What is in a place: a directory or a file. -/
inductive Node where
  | directory
  | file (content : Octets)
  deriving DecidableEq, Repr

/-- A place: the names on the way from the root. -/
abbrev Place := List String

/-- A path: its text, whether it starts at the root or at the working directory, the parts
between slashes, and whether a slash ends it. -/
structure Path where
  text : String
  absolute : Bool
  parts : List String
  slashed : Bool
  deriving DecidableEq, Repr

namespace Path

/-- The path that a text writes. -/
def ofText (text : String) : Path :=
  let characters := text.toList
  { text
    absolute := characters.head? = some '/'
    parts := ((characters.splitOn '/').filter (!·.isEmpty)).map String.ofList
    slashed := characters.getLast? = some '/' }

/-- The parts without dots that stand for their place, other than one at the front. -/
def plainParts (path : Path) : List String :=
  match path.parts with
  | "." :: rest => if path.absolute then rest.filter (· != ".")
    else "." :: rest.filter (· != ".")
  | parts => parts.filter (· != ".")

/-- The parts of the directory above, which is the working directory for a path of at
most one part. -/
def above (path : Path) : List String :=
  match path.plainParts.dropLast with
  | [] => if path.absolute && !path.plainParts.isEmpty then [] else ["."]
  | parts => parts

/-- The text of the directory above: what is written before the last part, without the
slashes and dots at its end. -/
def aboveText (path : Path) : String :=
  let isIdle (segment : List Char) : Bool := segment.isEmpty || segment = ['.']
  let segments := (path.text.toList.splitOn '/').reverse
  match (((segments.dropWhile isIdle).drop 1).dropWhile isIdle).reverse with
  | [] => if path.absolute && !path.plainParts.isEmpty then "/" else "."
  | above => String.ofList (['/'].intercalate above)

/-- The directory in which the file of a path is made: the one above it, and for a path
that names nothing the working directory. -/
def directory (path : Path) : Path where
  text := path.aboveText
  absolute := path.absolute && !path.plainParts.isEmpty
  parts := path.above
  slashed := false

/-- The text of a path followed by a name, with a slash between them unless one is there. -/
def join (path name : String) : String :=
  if path = "" || path.toList.getLast? = some '/' then path ++ name
  else path ++ "/" ++ name

/-- How many octets the text of a path may take. -/
def limit : Nat := 4095

/-- What is wrong with a path before it is followed. -/
def fault? (path : Path) : Option MediumFault :=
  if path.parts.any (·.toList.contains '\x00') then some .nulInName
  else if limit < path.text.utf8ByteSize then some .nameTooLong
  else none

end Path

/-- A tree: the places that hold something and the working directory.  The root is
always a directory. -/
structure FileTree where
  nodes : List (Place × Node) := []
  working : Place := []
  deriving DecidableEq, Repr

namespace FileTree

def node? (tree : FileTree) (place : Place) : Option Node :=
  if place = [] then some .directory
  else (tree.nodes.find? (·.1 == place)).map Prod.snd

def put (tree : FileTree) (place : Place) (node : Node) : FileTree :=
  { tree with nodes := tree.nodes.filter (·.1 != place) ++ [(place, node)] }

def remove (tree : FileTree) (place : Place) : FileTree :=
  { tree with nodes := tree.nodes.filter (·.1 != place) }

/-- Whether a name is one that no entry may have. -/
def faultOfName? (name : String) : Option MediumFault :=
  if 255 < name.utf8ByteSize then some .nameTooLong else none

/-- Follows parts from a directory to a directory. -/
def walk (tree : FileTree) : Place → List String → Except MediumFault Place
  | place, [] => .ok place
  | place, part :: parts =>
    if part = "." then walk tree place parts
    else if part = ".." then walk tree place.dropLast parts
    else
      match faultOfName? part with
      | some fault => .error fault
      | none =>
        match tree.node? (place ++ [part]) with
        | none => .error .noEntry
        | some (.file _) => .error .notDirectory
        | some .directory => walk tree (place ++ [part]) parts

/-- Where a path starts. -/
def origin (tree : FileTree) (absolute : Bool) : Place :=
  if absolute then [] else tree.working

/-- The end of a path: a directory reached by dots or by nothing, or a name in a
directory. -/
inductive Goal where
  | directory (place : Place)
  | name (place : Place)
  deriving DecidableEq, Repr

/-- Follows all but the last part of a path. -/
def goal (tree : FileTree) (absolute : Bool) (parts : List String) :
    Except MediumFault Goal :=
  if parts.any (·.toList.contains '\x00') then .error .nulInName
  else
    match parts.getLast? with
    | none => if absolute then .ok (.directory []) else .error .noEntry
    | some last =>
      match tree.walk (tree.origin absolute) parts.dropLast with
      | .error fault => .error fault
      | .ok place =>
        if last = "." then .ok (.directory place)
        else if last = ".." then .ok (.directory place.dropLast)
        else
          match faultOfName? last with
          | some fault => .error fault
          | none => .ok (.name (place ++ [last]))

/-- Follows all but the last part of a path that is sound as a whole. -/
def reach (tree : FileTree) (path : Path) : Except MediumFault Goal :=
  match path.fault? with
  | some fault => .error fault
  | none => tree.goal path.absolute path.parts

def read (tree : FileTree) (path : Path) : Except MediumFault Octets :=
  match tree.reach path with
  | .error fault => .error fault
  | .ok (.directory _) => .error .isDirectory
  | .ok (.name place) =>
    match tree.node? place with
    | none => .error .noEntry
    | some .directory => .error .isDirectory
    | some (.file content) => if path.slashed then .error .notDirectory else .ok content

/-- Whether parts lead to a directory. -/
def isDirectory (tree : FileTree) (absolute : Bool) (parts : List String) : Bool :=
  match tree.goal absolute parts with
  | .error _ => false
  | .ok (.directory _) => true
  | .ok (.name place) => tree.node? place = some .directory

def makeDirectory (tree : FileTree) (absolute : Bool) (parts : List String) :
    Except MediumFault FileTree :=
  match tree.goal absolute parts with
  | .error fault => .error fault
  | .ok (.directory _) => .error .occupied
  | .ok (.name place) =>
    match tree.node? place with
    | some _ => .error .occupied
    | none => .ok (tree.put place .directory)

/-- Makes one directory, which may be there already. -/
def ensureDirectory (tree : FileTree) (absolute : Bool) (parts : List String) :
    FileTree × Except MediumFault Unit :=
  match tree.makeDirectory absolute parts with
  | .ok made => (made, .ok ())
  | .error fault => (tree, if tree.isDirectory absolute parts then .ok () else .error fault)

/-- Makes a directory and those above it that are missing.  Directories made on the
way stay when a later one cannot be made. -/
def makeDirectories (tree : FileTree) (absolute : Bool) (parts : List String) :
    FileTree × Except MediumFault Unit :=
  if parts = [] then (tree, .ok ())
  else
    match tree.makeDirectory absolute parts with
    | .error .noEntry =>
      match tree.makeDirectories absolute parts.dropLast with
      | (made, .error fault) => (made, .error fault)
      | (made, .ok ()) => made.ensureDirectory absolute parts
    | _ => tree.ensureDirectory absolute parts
termination_by parts.length
decreasing_by
  have : parts ≠ [] := by assumption
  have := List.length_pos_iff.mpr this
  simp
  omega

/-- Makes the directory above a path and those above that one that are missing. -/
def makeAbove (tree : FileTree) (path : Path) : FileTree × Except MediumFault Unit :=
  match path.directory.fault? with
  | some fault => (tree, .error fault)
  | none => tree.makeDirectories path.absolute path.above

/-- The text of a path as it is written from the root. -/
def rooted (tree : FileTree) (path : Path) : String :=
  if path.absolute then path.text
  else Path.join ("/" ++ "/".intercalate tree.working) path.text

/-- The path of a name in a directory, written from the root. -/
def inside (tree : FileTree) (directory : Path) (name : String) : Path where
  text := Path.join (tree.rooted directory) name
  absolute := directory.absolute
  parts := directory.parts ++ [name]
  slashed := false

/-- Whether a file with a temporary name can be written beside that of a path: its own path,
which is written from the root, may be too long where that of the file is not. -/
def hasRoom (tree : FileTree) (path : Path) : Bool :=
  (tree.inside path.directory ".tmpXXXXXX").text.utf8ByteSize ≤ Path.limit

/-- Puts a finished file in the place that a path leads to, in place of a file that
was there. -/
def replace (tree : FileTree) (path : Path) (content : Octets) :
    Except MediumFault FileTree :=
  match tree.reach path with
  | .error fault => .error fault
  | .ok (.directory _) => .error .busy
  | .ok (.name place) =>
    if path.slashed then .error .notDirectory
    else
      match tree.node? place with
      | some .directory => .error .isDirectory
      | _ => .ok (tree.put place (.file content))

/-- A tree in which a path leads to a file of some content, if it can. -/
def holding (path : Path) (content : Octets) : FileTree :=
  let tree := (makeDirectories {} path.absolute path.above).1
  (tree.replace path content).toOption.getD tree

/-- Everything below the working directory, by the names on the way from there. -/
def listing (tree : FileTree) : List (Place × Node) :=
  tree.nodes.filterMap fun entry =>
    if tree.working.isPrefixOf entry.1 && entry.1 != tree.working then
      some (entry.1.drop tree.working.length, entry.2)
    else
      none

/-- The tree with directories made all the way to a place below the working
directory, and something put there. -/
def lay (tree : FileTree) (names : List String) (node : Node) : FileTree :=
  let place := tree.working ++ names
  let above := (List.range place.length).map (place.take ·)
  let made := above.foldl (fun tree directory =>
    if (tree.node? directory).isSome then tree else tree.put directory .directory) tree
  if node = .directory && (made.node? place).isSome then made else made.put place node

end FileTree

end SignIn
