import SignIn.Storage.FileTree

/-!
# What stays in a tree of files

Making directories only adds places that were free, so that a path that led somewhere
leads to the same place afterwards.  A file that has been put in the place that a path
leads to is what is read there.  Where the directories above a place cannot be made,
nothing can be read in that place.
-/

namespace SignIn

namespace FileTree

@[simp]
theorem node?_put_same (tree : FileTree) {place : Place} (below : place ≠ [])
    (node : Node) : (tree.put place node).node? place = some node := by
  have gone : (tree.nodes.filter (·.1 != place)).find? (·.1 == place) = none := by
    simp [List.find?_eq_none]
  simp [node?, put, below, List.find?_append, gone]

@[simp]
theorem node?_put_of_ne (tree : FileTree) {place other : Place} (node : Node)
    (different : other ≠ place) : (tree.put place node).node? other = tree.node? other := by
  have kept : (tree.nodes.filter (·.1 != place)).find? (·.1 == other) =
      tree.nodes.find? (·.1 == other) := by
    rw [List.find?_filter]
    congr 1
    ext entry
    by_cases found : entry.1 = other
    · simp [found, different]
    · simp [found]
  have last : ([(place, node)] : List (Place × Node)).find? (·.1 == other) = none := by
    simp [Ne.symm different]
  simp [node?, put, List.find?_append, kept, last]

@[simp]
theorem put_working (tree : FileTree) (place : Place) (node : Node) :
    (tree.put place node).working = tree.working :=
  rfl

/-- The directories of a tree are directories of another one, too. -/
structure KeepsDirectories (tree later : FileTree) : Prop where
  working : later.working = tree.working
  directories : ∀ place, tree.node? place = some .directory →
    later.node? place = some .directory

/-- Everything in a tree is in the same place of another one. -/
structure Extends (tree later : FileTree) : Prop where
  working : later.working = tree.working
  nodes : ∀ place node, tree.node? place = some node → later.node? place = some node

theorem Extends.keepsDirectories {tree later : FileTree} (extended : tree.Extends later) :
    tree.KeepsDirectories later where
  working := extended.working
  directories place := extended.nodes place .directory

theorem Extends.refl (tree : FileTree) : tree.Extends tree where
  working := rfl
  nodes _ _ found := found

theorem Extends.trans {first second third : FileTree} (earlier : first.Extends second)
    (later : second.Extends third) : first.Extends third where
  working := later.working.trans earlier.working
  nodes place node found := later.nodes place node (earlier.nodes place node found)

theorem extends_put {tree : FileTree} {place : Place} (free : tree.node? place = none)
    (node : Node) : tree.Extends (tree.put place node) where
  working := rfl
  nodes other found there := by
    have different : other ≠ place := by
      rintro rfl
      rw [free] at there
      contradiction
    rw [node?_put_of_ne tree node different, there]

theorem keepsDirectories_put {tree : FileTree} {place : Place}
    (noDirectory : tree.node? place ≠ some .directory) (node : Node) :
    tree.KeepsDirectories (tree.put place node) where
  working := rfl
  directories other there := by
    have different : other ≠ place := by
      rintro rfl
      exact noDirectory there
    rw [node?_put_of_ne tree node different, there]

theorem walk_append (tree : FileTree) (start : Place) (first second : List String) :
    tree.walk start (first ++ second) =
      match tree.walk start first with
      | .error fault => .error fault
      | .ok place => tree.walk place second := by
  induction first generalizing start with
  | nil => rfl
  | cons part parts ih =>
      rw [List.cons_append, walk, walk]
      by_cases dot : part = "."
      · rw [if_pos dot, if_pos dot, ih]
      · rw [if_neg dot, if_neg dot]
        by_cases up : part = ".."
        · rw [if_pos up, if_pos up, ih]
        · rw [if_neg up, if_neg up]
          split
          · rfl
          · split
            · rfl
            · rfl
            · exact ih _

theorem walk_filter (tree : FileTree) (start : Place) (parts : List String) :
    tree.walk start (parts.filter (· != ".")) = tree.walk start parts := by
  induction parts generalizing start with
  | nil => rfl
  | cons part parts ih =>
      by_cases dot : part = "."
      · rw [List.filter_cons_of_neg (by simp [dot]), walk, if_pos dot, ih]
      · rw [List.filter_cons_of_pos (by simp [dot]), walk, walk, if_neg dot, if_neg dot]
        by_cases up : part = ".."
        · rw [if_pos up, if_pos up, ih]
        · rw [if_neg up, if_neg up]
          split
          · rfl
          · split
            · rfl
            · rfl
            · exact ih _

theorem walk_mono {tree later : FileTree} (keeps : tree.KeepsDirectories later)
    {start place : Place} {parts : List String} (walked : tree.walk start parts = .ok place) :
    later.walk start parts = .ok place := by
  induction parts generalizing start with
  | nil => exact walked
  | cons part parts ih =>
      rw [walk] at walked ⊢
      by_cases dot : part = "."
      · rw [if_pos dot] at walked ⊢
        exact ih walked
      · rw [if_neg dot] at walked ⊢
        by_cases up : part = ".."
        · rw [if_pos up] at walked ⊢
          exact ih walked
        · rw [if_neg up] at walked ⊢
          split at walked
          · contradiction
          · split at walked
            · contradiction
            · contradiction
            · rename_i there
              rw [keeps.directories _ there]
              exact ih walked

theorem origin_eq {tree later : FileTree} (keeps : tree.KeepsDirectories later)
    (absolute : Bool) : later.origin absolute = tree.origin absolute := by
  rw [origin, origin, keeps.working]

theorem goal_mono {tree later : FileTree} (keeps : tree.KeepsDirectories later)
    {absolute : Bool} {parts : List String} {goal : Goal}
    (reached : tree.goal absolute parts = .ok goal) :
    later.goal absolute parts = .ok goal := by
  unfold FileTree.goal at reached ⊢
  rw [origin_eq keeps]
  split at reached
  · contradiction
  · rename_i sound
    rw [if_neg sound]
    split at reached
    · exact reached
    · split at reached
      · contradiction
      · rename_i walked
        rw [walk_mono keeps walked]
        exact reached

theorem reach_eq_ok_iff {tree : FileTree} {path : Path} {goal : Goal} :
    tree.reach path = .ok goal ↔
      path.fault? = none ∧ tree.goal path.absolute path.parts = .ok goal := by
  unfold reach
  cases path.fault? <;> simp

theorem reach_mono {tree later : FileTree} (keeps : tree.KeepsDirectories later) {path : Path}
    {goal : Goal} (reached : tree.reach path = .ok goal) : later.reach path = .ok goal := by
  rw [reach_eq_ok_iff] at reached ⊢
  exact ⟨reached.1, goal_mono keeps reached.2⟩

theorem read_mono {tree later : FileTree} (extended : tree.Extends later) {path : Path}
    {content : Octets} (read : tree.read path = .ok content) :
    later.read path = .ok content := by
  unfold FileTree.read at read ⊢
  split at read
  · contradiction
  · contradiction
  · rename_i reached
    rw [reach_mono extended.keepsDirectories reached]
    split at read
    · contradiction
    · contradiction
    · rename_i there
      simp only [extended.nodes _ _ there]
      exact read

theorem goal_name_ne_nil {tree : FileTree} {absolute : Bool} {parts : List String}
    {place : Place} (reached : tree.goal absolute parts = .ok (.name place)) :
    place ≠ [] := by
  unfold goal at reached
  repeat' split at reached
  all_goals simp_all
  rw [← reached]
  simp

/-- A file that has taken its place is what is read there. -/
theorem read_replace {tree replaced : FileTree} {path : Path} {content : Octets}
    (put : tree.replace path content = .ok replaced) :
    replaced.read path = .ok content := by
  unfold replace at put
  split at put
  · contradiction
  · contradiction
  · rename_i place reached
    split at put
    · contradiction
    · rename_i plain
      split at put
      · contradiction
      · rename_i noDirectory
        obtain rfl : tree.put place (.file content) = replaced := by simpa using put
        have below := goal_name_ne_nil (reach_eq_ok_iff.mp reached).2
        have still := reach_mono
          (keepsDirectories_put (fun there => noDirectory there) (.file content)) reached
        simp only [read, still, node?_put_same tree below, plain]
        rfl

theorem working_of_replace {tree replaced : FileTree} {path : Path} {content : Octets}
    (put : tree.replace path content = .ok replaced) : replaced.working = tree.working := by
  unfold replace at put
  split at put
  · contradiction
  · contradiction
  · split at put
    · contradiction
    · split at put
      · contradiction
      · rw [← Except.ok.inj put, put_working]

theorem read_of_replace_error {tree : FileTree} {path : Path} {content : Octets}
    {fault : MediumFault} (refused : tree.replace path content = .error fault) :
    ∃ fault, tree.read path = .error fault := by
  unfold replace at refused
  unfold read
  cases reached : tree.reach path with
  | error fault => exact ⟨_, rfl⟩
  | ok goal =>
      rw [reached] at refused
      cases goal with
      | directory place => exact ⟨_, rfl⟩
      | name place =>
          by_cases slashed : path.slashed = true
          · simp only [slashed, if_true]
            split <;> exact ⟨_, rfl⟩
          · simp only [if_neg slashed] at refused
            split at refused
            · rename_i there
              simp only [there]
              exact ⟨_, rfl⟩
            · contradiction

def hasNul (parts : List String) : Bool :=
  parts.any (·.toList.contains '\x00')

theorem goal_concat (tree : FileTree) (absolute : Bool) (above : List String)
    (last : String) :
    tree.goal absolute (above ++ [last]) =
      if hasNul (above ++ [last]) then .error .nulInName
      else
        match tree.walk (tree.origin absolute) above with
        | .error fault => .error fault
        | .ok place =>
          if last = "." then .ok (.directory place)
          else if last = ".." then .ok (.directory place.dropLast)
          else
            match faultOfName? last with
            | some fault => .error fault
            | none => .ok (.name (place ++ [last])) := by
  unfold goal
  rw [List.getLast?_concat, List.dropLast_concat]
  rfl

/-- Parts lead to a directory if they can be followed to their end. -/
theorem isDirectory_iff (tree : FileTree) (absolute : Bool) {parts : List String}
    (nonempty : parts ≠ []) :
    tree.isDirectory absolute parts = true ↔
      hasNul parts = false ∧ ∃ place, tree.walk (tree.origin absolute) parts = .ok place := by
  rw [← List.dropLast_concat_getLast nonempty]
  generalize parts.dropLast = above, parts.getLast nonempty = last
  rw [isDirectory, goal_concat, walk_append]
  cases hasNul (above ++ [last]) with
  | true => simp
  | false =>
      cases tree.walk (tree.origin absolute) above with
      | error fault => simp
      | ok place =>
          simp only [walk, Bool.false_eq_true, if_false, true_and]
          by_cases dot : last = "."
          · simp [dot]
          · by_cases up : last = ".."
            · simp [up]
            · simp only [if_neg dot, if_neg up]
              cases faultOfName? last with
              | some fault => simp
              | none =>
                  cases there : tree.node? (place ++ [last]) with
                  | none => simp [there]
                  | some node => cases node <;> simp [there]

theorem extends_makeDirectory {tree made : FileTree} {absolute : Bool}
    {parts : List String} (making : tree.makeDirectory absolute parts = .ok made) :
    tree.Extends made := by
  unfold makeDirectory at making
  split at making
  · contradiction
  · contradiction
  · split at making
    · contradiction
    · rename_i free
      obtain rfl : tree.put _ .directory = made := by simpa using making
      exact extends_put free .directory

theorem extends_ensureDirectory (tree : FileTree) (absolute : Bool)
    (parts : List String) : tree.Extends (tree.ensureDirectory absolute parts).1 := by
  unfold ensureDirectory
  split
  · rename_i making
    exact extends_makeDirectory making
  · exact Extends.refl tree

/-- Whatever comes of making directories, nothing that was there is lost. -/
theorem extends_makeDirectories (tree : FileTree) (absolute : Bool)
    (parts : List String) : tree.Extends (tree.makeDirectories absolute parts).1 := by
  fun_induction makeDirectories tree absolute parts with
  | case1 => exact Extends.refl tree
  | case2 parts nonempty missing made fault above ih =>
      rw [above] at ih
      exact ih
  | case3 parts nonempty missing made above ih =>
      rw [above] at ih
      exact ih.trans (extends_ensureDirectory made absolute parts)
  | case4 parts nonempty present => exact extends_ensureDirectory tree absolute parts

theorem isDirectory_dropLast {tree : FileTree} {absolute : Bool} {parts : List String}
    (above : parts.dropLast ≠ []) (directory : tree.isDirectory absolute parts = true) :
    tree.isDirectory absolute parts.dropLast = true := by
  have nonempty : parts ≠ [] := by
    rintro rfl
    exact above rfl
  rw [isDirectory_iff tree absolute nonempty] at directory
  rw [isDirectory_iff tree absolute above]
  rw [← List.dropLast_concat_getLast nonempty] at directory
  obtain ⟨noNul, place, walked⟩ := directory
  constructor
  · rw [hasNul, List.any_append, Bool.or_eq_false_iff] at noNul
    exact noNul.1
  · rw [walk_append] at walked
    split at walked
    · contradiction
    · exact ⟨_, by assumption⟩

/-- Directories that could not be made are not there afterwards. -/
theorem isDirectory_of_makeDirectories_error {tree made : FileTree} {absolute : Bool}
    {parts : List String} {fault : MediumFault}
    (failed : tree.makeDirectories absolute parts = (made, .error fault)) :
    parts ≠ [] ∧ made.isDirectory absolute parts = false := by
  have ensured {before : FileTree} {parts : List String}
      (failed : before.ensureDirectory absolute parts = (made, .error fault)) :
      made.isDirectory absolute parts = false := by
    unfold ensureDirectory at failed
    split at failed
    · simp at failed
    · simp only [Prod.mk.injEq] at failed
      obtain ⟨rfl, outcome⟩ := failed
      split at outcome
      · contradiction
      · rename_i missing
        simpa using missing
  fun_induction makeDirectories tree absolute parts with
  | case1 => simp at failed
  | case2 parts nonempty missing between other above ih =>
      obtain ⟨rfl, rfl⟩ : between = made ∧ other = fault := by simpa using failed
      obtain ⟨aboveNonempty, notThere⟩ := ih above
      refine ⟨nonempty, Bool.eq_false_iff.mpr fun directory => ?_⟩
      rw [isDirectory_dropLast aboveNonempty directory] at notThere
      contradiction
  | case3 parts nonempty missing between above ih => exact ⟨nonempty, ensured failed⟩
  | case4 parts nonempty present => exact ⟨nonempty, ensured failed⟩

theorem walk_plainParts (tree : FileTree) (start : Place) (path : Path) :
    tree.walk start path.plainParts = tree.walk start path.parts := by
  unfold Path.plainParts
  split
  · rename_i rest written
    rw [written]
    split <;> simp [walk, walk_filter]
  · exact walk_filter tree start path.parts

theorem plainParts_concat {path : Path} {above : List String} {last : String}
    (written : path.parts = above ++ [last]) (notDot : last ≠ ".") :
    path.plainParts = Path.plainParts { path with parts := above } ++ [last] := by
  unfold Path.plainParts
  rw [written]
  cases above with
  | nil => simp [notDot]
  | cons first above =>
      by_cases dot : first = "."
      · subst dot
        cases path.absolute <;> simp [notDot]
      · simp [dot, notDot]

/-- The directory above a place is followed like the path without its last part. -/
theorem walk_above (tree : FileTree) (start : Place) {path : Path} {above : List String}
    {last : String} (written : path.parts = above ++ [last]) (notDot : last ≠ ".") :
    tree.walk start path.above = tree.walk start above := by
  have plain := plainParts_concat written notDot
  have walked := tree.walk_plainParts start { path with parts := above }
  unfold Path.above
  rw [plain, List.dropLast_concat]
  split
  · rename_i nothing
    rw [nothing] at walked
    rw [← walked]
    split <;> simp [walk]
  · exact walked

theorem mem_plainParts {path : Path} {part : String} (member : part ∈ path.plainParts) :
    part ∈ path.parts ∨ part = "." := by
  unfold Path.plainParts at member
  split at member
  · rename_i rest written
    rw [written]
    split at member <;> grind
  · simp only [List.mem_filter] at member
    exact .inl member.1

theorem hasNul_above {path : Path} (noNul : hasNul path.parts = false) :
    hasNul path.above = false := by
  have dot : ".".toList.contains '\x00' = false := rfl
  have plain : ∀ part ∈ path.plainParts, part.toList.contains '\x00' = false := by
    intro part member
    rcases mem_plainParts member with there | rfl
    · simpa using List.any_eq_false.mp noNul part there
    · exact dot
  unfold Path.above hasNul
  rw [List.any_eq_false]
  split
  · split <;> simp
  · intro part member
    simpa using plain part (List.dropLast_subset _ member)

theorem isDirectory_above_of_read {tree : FileTree} {path : Path} {content : Octets}
    (read : tree.read path = .ok content) (nonempty : path.above ≠ []) :
    tree.isDirectory path.absolute path.above = true := by
  cases followed : tree.reach path with
  | error fault => simp [FileTree.read, followed] at read
  | ok goal =>
      cases goal with
      | directory place => simp [FileTree.read, followed] at read
      | name place =>
          have reached := (reach_eq_ok_iff.mp followed).2
          have parts : path.parts ≠ [] := by
            intro nothing
            rw [nothing, FileTree.goal] at reached
            cases absolute : path.absolute <;> simp [absolute] at reached
          rw [isDirectory_iff tree path.absolute nonempty]
          rw [← List.dropLast_concat_getLast parts, goal_concat] at reached
          have written := (List.dropLast_concat_getLast parts).symm
          revert reached written
          generalize path.parts.dropLast = above, path.parts.getLast parts = last
          intro reached written
          split at reached
          · contradiction
          · rename_i noNul
            split at reached
            · contradiction
            · rename_i place walked
              split at reached
              · simp at reached
              · rename_i notDot
                refine ⟨hasNul_above (by rw [written]; simpa using noNul), place, ?_⟩
                rw [walk_above tree _ written notDot, walked]

/-- Nothing is read, before or after, in a place above which directories could not be
made. -/
theorem read_of_makeDirectories_error {tree made : FileTree} {path : Path}
    {fault : MediumFault}
    (failed : tree.makeDirectories path.absolute path.above = (made, .error fault)) :
    (∃ fault, tree.read path = .error fault) ∧ ∃ fault, made.read path = .error fault := by
  obtain ⟨nonempty, missing⟩ := isDirectory_of_makeDirectories_error failed
  have extended : tree.Extends made := by
    have whole := extends_makeDirectories tree path.absolute path.above
    rwa [failed] at whole
  have unread : ∀ content, made.read path ≠ .ok content := by
    intro content read
    rw [isDirectory_above_of_read read nonempty] at missing
    contradiction
  constructor
  · cases read : tree.read path with
    | error fault => exact ⟨fault, rfl⟩
    | ok content => exact absurd (read_mono extended read) (unread content)
  · cases read : made.read path with
    | error fault => exact ⟨fault, rfl⟩
    | ok content => exact absurd read (unread content)

theorem utf8ByteSize_join (path name : String) :
    (Path.join path name).utf8ByteSize = path.utf8ByteSize + name.utf8ByteSize ∨
      (Path.join path name).utf8ByteSize = path.utf8ByteSize + 1 + name.utf8ByteSize := by
  unfold Path.join
  split
  · exact .inl (String.utf8ByteSize_append ..)
  · exact .inr (by rw [String.utf8ByteSize_append, String.utf8ByteSize_append]; rfl)

/-- What a path comes to with a name hangs on the length of the name only. -/
theorem utf8ByteSize_join_congr (path : String) {name other : String}
    (same : name.utf8ByteSize = other.utf8ByteSize) :
    (Path.join path name).utf8ByteSize = (Path.join path other).utf8ByteSize := by
  unfold Path.join
  split <;> simp only [String.utf8ByteSize_append, same]

theorem hasRoom_congr {tree later : FileTree} (working : later.working = tree.working)
    (path : Path) : later.hasRoom path = tree.hasRoom path := by
  have same (name : String) :
      (later.inside path.directory name).text = (tree.inside path.directory name).text := by
    simp only [inside, rooted, working]
  rw [hasRoom, hasRoom, same]

theorem fault?_eq_none_iff {path : Path} :
    path.fault? = none ↔ hasNul path.parts = false ∧ path.text.utf8ByteSize ≤ Path.limit := by
  have nul : path.parts.any (·.toList.contains '\x00') = hasNul path.parts := rfl
  unfold Path.fault?
  rw [nul]
  cases hasNul path.parts <;> simp

theorem utf8ByteSize_le_rooted (tree : FileTree) (path : Path) :
    path.text.utf8ByteSize ≤ (tree.rooted path).utf8ByteSize := by
  unfold rooted
  split
  · exact Nat.le_refl _
  · have := utf8ByteSize_join ("/" ++ "/".intercalate tree.working) path.text
    omega

/-- Where there is room for a file in a directory the directory can be named. -/
theorem fault?_directory {tree : FileTree} {path : Path} (sound : path.fault? = none)
    (room : tree.hasRoom path = true) : path.directory.fault? = none := by
  have fits : (Path.join (tree.rooted path.directory) ".tmpXXXXXX").utf8ByteSize ≤ Path.limit :=
    of_decide_eq_true room
  have named := tree.utf8ByteSize_le_rooted path.directory
  have := utf8ByteSize_join (tree.rooted path.directory) ".tmpXXXXXX"
  exact fault?_eq_none_iff.mpr
    ⟨hasNul_above (fault?_eq_none_iff.mp sound).1, by omega⟩

/-- Making the directory above a path comes to nothing, or to making directories. -/
theorem makeAbove_cases (tree : FileTree) (path : Path) :
    (∃ fault, path.directory.fault? = some fault ∧ tree.makeAbove path = (tree, .error fault)) ∨
      tree.makeAbove path = tree.makeDirectories path.absolute path.above := by
  unfold makeAbove
  cases path.directory.fault? with
  | some fault => exact .inl ⟨fault, rfl, rfl⟩
  | none => exact .inr rfl

theorem extends_makeAbove (tree : FileTree) (path : Path) :
    tree.Extends (tree.makeAbove path).1 := by
  rcases tree.makeAbove_cases path with ⟨fault, -, same⟩ | same
  · rw [same]
    exact Extends.refl tree
  · rw [same]
    exact extends_makeDirectories tree path.absolute path.above

end FileTree

end SignIn
