import Mathlib.Data.List.DropRight
import Mathlib.Logic.Function.Iterate
import SignIn.CommandLine.Run

/-!
# Where base and path meet

The slashes at the end of a base and those at the beginning of a path do not matter: one slash
joins what is left of them.  A base is brought to normal form by the settings of the environment,
by those of an invocation and by the client; the first time decides, and the others change nothing.
-/

namespace SignIn

/-- A row of slashes. -/
def slashes (count : Nat) : String :=
  String.ofList (List.replicate count '/')

namespace Client

theorem toList_normalize (base : String) :
    (normalize base).toList = base.toList.rdropWhile (· = '/') := by
  rw [normalize, Trim.trailing, String.toList_ofList, List.rdropWhile]

theorem rdropWhile_append_slashes (letters : List Char) (count : Nat) :
    (letters ++ List.replicate count '/').rdropWhile (· = '/') =
      letters.rdropWhile (· = '/') := by
  induction count with
  | zero => rw [List.replicate_zero, List.append_nil]
  | succ count ih =>
      rw [List.replicate_succ', ← List.append_assoc, List.rdropWhile_concat_pos, ih]
      rfl

theorem normalize_append_slashes (base : String) (count : Nat) :
    normalize (base ++ slashes count) = normalize base := by
  apply String.toList_inj.mp
  rw [toList_normalize, String.toList_append, slashes, String.toList_ofList,
    rdropWhile_append_slashes, toList_normalize]

@[simp]
theorem normalize_normalize (base : String) : normalize (normalize base) = normalize base := by
  apply String.toList_inj.mp
  rw [toList_normalize, toList_normalize, List.rdropWhile_idempotent]

theorem iterate_normalize (base : String) (times : Nat) :
    normalize^[times] (normalize base) = normalize base :=
  Function.iterate_fixed (normalize_normalize base) times

theorem exists_replicate_of_rdropWhile (letters : List Char) :
    ∃ count, letters = letters.rdropWhile (· = '/') ++ List.replicate count '/' := by
  induction letters using List.reverseRecOn with
  | nil => exact ⟨0, rfl⟩
  | append_singleton before last ih =>
      by_cases slash : last = '/'
      · obtain ⟨count, ends⟩ := ih
        refine ⟨count + 1, ?_⟩
        rw [List.rdropWhile_concat_pos _ _ _ (by simpa using slash), List.replicate_succ',
          ← List.append_assoc, ← ends, slash]
      · refine ⟨0, ?_⟩
        rw [List.rdropWhile_concat_neg _ _ _ (by simpa using slash), List.replicate_zero,
          List.append_nil]

/-- A base is its normal form with slashes behind it. -/
theorem exists_slashes_behind (base : String) :
    ∃ count, base = normalize base ++ slashes count := by
  obtain ⟨count, ends⟩ := exists_replicate_of_rdropWhile base.toList
  refine ⟨count, String.toList_inj.mp ?_⟩
  rw [String.toList_append, toList_normalize, slashes, String.toList_ofList, ← ends]

theorem getLast?_normalize (base : String) : (normalize base).toList.getLast? ≠ some '/' := by
  intro ends
  rw [toList_normalize] at ends
  obtain ⟨kept, last⟩ := List.mem_getLast?_eq_getLast ends
  apply List.rdropWhile_last_not _ _ kept
  rw [← last, decide_eq_true rfl]

theorem dropWhile_slashes_append (count : Nat) (letters : List Char) :
    (List.replicate count '/' ++ letters).dropWhile (· = '/') = letters.dropWhile (· = '/') := by
  induction count with
  | zero => rw [List.replicate_zero, List.nil_append]
  | succ count ih =>
      rw [List.replicate_succ, List.cons_append, List.dropWhile_cons_of_pos rfl, ih]

theorem leading_slashes_append (count : Nat) (path : String) :
    Trim.leading (· = '/') (slashes count ++ path) = Trim.leading (· = '/') path := by
  rw [Trim.leading, String.toList_append, slashes, String.toList_ofList,
    dropWhile_slashes_append, Trim.leading]

theorem exists_replicate_of_dropWhile (letters : List Char) :
    ∃ count, letters = List.replicate count '/' ++ letters.dropWhile (· = '/') := by
  induction letters with
  | nil => exact ⟨0, rfl⟩
  | cons first rest ih =>
      by_cases slash : first = '/'
      · obtain ⟨count, begins⟩ := ih
        refine ⟨count + 1, ?_⟩
        rw [List.dropWhile_cons_of_pos (by simpa using slash), List.replicate_succ,
          List.cons_append, ← begins, slash]
      · refine ⟨0, ?_⟩
        rw [List.dropWhile_cons_of_neg (by simpa using slash), List.replicate_zero,
          List.nil_append]

theorem exists_slashes_before (path : String) :
    ∃ count, path = slashes count ++ Trim.leading (· = '/') path := by
  obtain ⟨count, begins⟩ := exists_replicate_of_dropWhile path.toList
  refine ⟨count, String.toList_inj.mp ?_⟩
  rw [String.toList_append, slashes, Trim.leading, String.toList_ofList, String.toList_ofList,
    ← begins]

theorem head?_leading (path : String) :
    (Trim.leading (· = '/') path).toList.head? ≠ some '/' := by
  intro begins
  have first := List.head?_dropWhile_not (fun letter => decide (letter = '/')) path.toList
  rw [Trim.leading, String.toList_ofList] at begins
  rw [begins] at first
  contradiction

/-- The base that an invocation names in an environment, as it was written. -/
def writtenBase (invocation : CommandLine.Invocation) (environment : Environment) : String :=
  invocation.apiUrl.getD (environment.appUrl.getD Config.defaultAppUrl)

/-- The settings of an invocation hold the normal form of the base that it names: the one of the
environment has been normalized before. -/
theorem config_appUrl (invocation : CommandLine.Invocation) (environment : Environment) :
    (invocation.config environment).appUrl = normalize (writtenBase invocation environment) := by
  cases named : invocation.apiUrl with
  | some base => simp [CommandLine.Invocation.config, Config.of, writtenBase, named]
  | none =>
      simp [CommandLine.Invocation.config, Config.ofEnvironment, Config.of, writtenBase, named]

/-- An address does not depend on the slashes where base and path meet, nor on how often the base
is brought to normal form; it is the base without the slashes at its end, one slash, and the path
without the slashes at its beginning. -/
theorem url_joins_with_one_slash :
    (∀ (base path sessionFile : String) (interval : UInt64) (behind before : Nat),
      (ofBase (Config.of (base ++ slashes behind) sessionFile interval).appUrl).url
        (slashes before ++ path) = (ofBase base).url path) ∧
    (∀ (base path : String) (times : Nat),
      (ofBase (normalize^[times] base)).url path = (ofBase base).url path) ∧
    (∀ (surroundings : CommandLine.Surroundings) (invocation : CommandLine.Invocation)
        (path : String),
      (surroundings.stage (invocation.config surroundings.environment)).client.url path =
        (ofBase (writtenBase invocation surroundings.environment)).url path) ∧
    ∀ base path : String, ∃ front rest behind before,
      base = front ++ slashes behind ∧ path = slashes before ++ rest ∧
      (ofBase base).url path = front ++ "/" ++ rest ∧
      front.toList.getLast? ≠ some '/' ∧ rest.toList.head? ≠ some '/' := by
  refine ⟨?_, ?_, ?_, ?_⟩
  · intro base path sessionFile interval behind before
    simp only [url, ofBase, Config.of, normalize_append_slashes, normalize_normalize,
      leading_slashes_append]
  · intro base path times
    have same : normalize (normalize^[times] base) = normalize base := by
      rw [← Function.iterate_succ_apply' normalize times base, Function.iterate_succ_apply,
        iterate_normalize]
    rw [ofBase, same, ofBase]
  · intro surroundings invocation path
    have kept : (surroundings.stage (invocation.config surroundings.environment)).client =
        ofBase (invocation.config surroundings.environment).appUrl := rfl
    rw [kept, ofBase, config_appUrl, normalize_normalize, ofBase]
  · intro base path
    obtain ⟨behind, baseEnds⟩ := exists_slashes_behind base
    obtain ⟨before, pathBegins⟩ := exists_slashes_before path
    exact ⟨normalize base, Trim.leading (· = '/') path, behind, before, baseEnds, pathBegins,
      rfl, getLast?_normalize base, head?_leading path⟩

end Client

end SignIn
