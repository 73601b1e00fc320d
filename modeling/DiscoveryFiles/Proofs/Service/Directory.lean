import DiscoveryFiles.Proofs.Report.CrossFile
import DiscoveryFiles.Proofs.Service.Attempt

/-!
# Scanning a site directory

A scan goes through the canonical names in order and checks the files that have them.  Its report
has the result that each of these files has alone, and advice that depends on which files there are.
-/

namespace DiscoveryFiles
namespace Service

/-- The path of the canonical file of a kind in a directory. -/
def canonicalPath (directory : Path) (kind : Kind) : Path :=
  directory.child kind.fileName.toList

private theorem isRead_canonicalPath {directory : Path} (read : directory.IsRead) (kind : Kind) :
    (canonicalPath directory kind).IsRead :=
  read.child (by cases kind <;> decide) (by cases kind <;> decide)

section Results

variable {tree : FileTree} {schemas directory : Path}

private theorem answersAfresh_scanKinds (kinds : List Kind) :
    AnswersAfresh schemas tree (scanKinds tree directory kinds) := by
  induction kinds with
  | nil => exact answersAfresh_pure _
  | cons kind kinds others =>
      exact answersAfresh_step (answersAfresh_cons others) others

/-- The results of a scan are those that the files have alone; the first file without a result ends
the scan. -/
theorem answer_scanKinds (read : directory.IsRead) (kinds : List Kind) :
    answer (scanKinds tree directory kinds) (.fresh schemas) =
      (kinds.filter fun kind => tree.MayHaveFile (canonicalPath directory kind)).mapM
        fun kind => alone tree schemas (canonicalPath directory kind) := by
  induction kinds with
  | nil => rfl
  | cons kind kinds induction =>
      have others : AnswersAfresh schemas tree (scanKinds tree directory kinds) :=
        answersAfresh_scanKinds kinds
      refine (answer_step (answersAfresh_cons others) others).trans ?_
      rw [← canonicalPath, attempt_eq_alone (isRead_canonicalPath read kind), List.filter_cons]
      by_cases attempted : tree.MayHaveFile (canonicalPath directory kind)
      · rw [if_pos attempted, if_pos (decide_eq_true attempted), mapM_cons_eq, ← induction]
        congr 1
        funext result
        exact answer_cons others result
      · rw [if_neg attempted, if_neg (by simpa using attempted), induction]

end Results

/-! ## The report -/

/-- The report on results. -/
def reportOn (path : String) (results : List Result) : DirectoryReport :=
  ⟨path, Kind.all.map Kind.fileName, results,
    if results = [] then none else some (CrossFile.advise (results.map Result.type))⟩

/-- The end of a scan: the report on its results, and a note if there are none. -/
def conclude (path : String) (results : List Result) : Service DirectoryReport := do
  if results.isEmpty then
    note .info .validation ("No AI Discovery Files found in " ++ (Path.ofString path).words)
  return reportOn path results

section Report

variable {tree : FileTree} {schemas : Path} (path : String)

private theorem validateDirectory_eq :
    validateDirectory tree path = (do
      requireDirectory tree path
      conclude path (← scanKinds tree (Path.ofString path) Kind.all)) := by
  refine bind_congr fun _ => bind_congr fun results => ?_
  cases results <;> rfl

private theorem answersAfresh_conclude (results : List Result) :
    AnswersAfresh schemas tree (conclude path results) := by
  cases results with
  | nil => exact (answersAfresh_note _ _ _).bind fun _ => answersAfresh_pure _
  | cons first others => exact answersAfresh_pure _

private theorem answer_conclude (results : List Result) (state : ServiceState) :
    answer (conclude path results) state = .ok (reportOn path results) := by
  cases results <;> rfl

private theorem answersAfresh_validateDirectory :
    AnswersAfresh schemas tree (validateDirectory tree path) := by
  rw [validateDirectory_eq]
  refine (answersAfresh_requireDirectory path).bind fun _ => ?_
  exact (answersAfresh_scanKinds Kind.all).bind (answersAfresh_conclude path)

/-- The kinds whose canonical file a scan of a directory attempts, in its order. -/
def attemptedKinds (tree : FileTree) (directory : Path) : List Kind :=
  Kind.all.filter fun kind => tree.MayHaveFile (canonicalPath directory kind)

end Report

/-- There is a directory, and all canonical files in it have results without errors. -/
@[mk_iff]
structure DirectoryPasses (tree : FileTree) (schemas : Path) (path : String) : Prop where
  /-- The directory is there. -/
  found : tree.HasDirectory (Path.ofString path)
  /-- What may be a canonical file has a result without errors. -/
  files : ∀ kind, tree.MayHaveFile (canonicalPath (Path.ofString path) kind) → ∃ result,
    alone tree schemas (canonicalPath (Path.ofString path) kind) = .ok result ∧
      result.findings.errors = []

private theorem mem_attemptedKinds {tree : FileTree} {directory : Path} {kind : Kind} :
    kind ∈ attemptedKinds tree directory ↔ tree.MayHaveFile (canonicalPath directory kind) := by
  rw [attemptedKinds, List.mem_filter, decide_eq_true_iff]
  exact and_iff_right (Kind.mem_all kind)

section Scan

variable {tree : FileTree} {schemas : Path} {path : String}

private theorem answer_validateDirectory_of_isTooLong {state : ServiceState}
    (long : tree.IsTooLong (Path.ofString path)) :
    answer (validateDirectory tree path) state = .error .nameTooLong := by
  rw [validateDirectory_eq, answer_requireDirectory_then,
    FileTree.isDirectory_eq_error_iff.mpr ⟨long, rfl⟩]

private theorem answer_validateDirectory_of_absent {state : ServiceState}
    (absent : ¬ tree.HasDirectory (Path.ofString path))
    (short : ¬ tree.IsTooLong (Path.ofString path)) :
    answer (validateDirectory tree path) state = .error (.directoryNotFound path) := by
  rw [validateDirectory_eq, answer_requireDirectory_then,
    FileTree.isDirectory_eq_false_iff.mpr ⟨absent, short⟩]

/-- A scan of a directory reports on the results that its files have alone. -/
theorem answer_validateDirectory_of_hasDirectory {state : ServiceState}
    (afresh : LoadsAfresh schemas tree state) (found : tree.HasDirectory (Path.ofString path)) :
    answer (validateDirectory tree path) state =
      ((attemptedKinds tree (Path.ofString path)).mapM fun kind =>
        alone tree schemas (canonicalPath (Path.ofString path) kind)).map (reportOn path) := by
  rw [(answersAfresh_validateDirectory path state afresh).1, validateDirectory_eq,
    answer_requireDirectory_then, FileTree.isDirectory_eq_true_iff.mpr found]
  dsimp only
  rw [(answersAfresh_scanKinds Kind.all).answer_bind (answersAfresh_conclude path),
    answer_scanKinds (Path.isRead_ofString path)]
  simp only [answer_conclude]
  rfl

theorem exists_answer_valid_iff :
    (∃ report, answer (validateDirectory tree path) (.fresh schemas) = .ok report ∧
        report.valid = true) ↔ DirectoryPasses tree schemas path := by
  rw [directoryPasses_iff]
  by_cases long : tree.IsTooLong (Path.ofString path)
  · have absent : ¬ tree.HasDirectory (Path.ofString path) := fun found => found.not_isTooLong long
    rw [answer_validateDirectory_of_isTooLong long]
    simp [absent]
  by_cases found : tree.HasDirectory (Path.ofString path)
  · rw [answer_validateDirectory_of_hasDirectory (loadsAfresh_fresh schemas tree) found]
    have valid_iff (results : List Result) :
        (reportOn path results).valid = true ↔ ∀ result ∈ results, result.findings.errors = [] := by
      simp [DirectoryReport.valid, reportOn, Result.valid]
    simp only [and_iff_right found, ← mem_attemptedKinds, ← exists_mapM_eq_ok_and_iff]
    cases (attemptedKinds tree (Path.ofString path)).mapM fun kind =>
        alone tree schemas (canonicalPath (Path.ofString path) kind) with
    | error failure => simp [Except.map]
    | ok results => simp [Except.map, valid_iff]
  · rw [answer_validateDirectory_of_absent found long]
    simp [found]

end Scan

/-- A directory named like a file, with an empty file and a directory in it. -/
def nestedTree : FileTree :=
  ⟨.directory [("llms.txt".toList, .directory [
    ("ai.txt".toList, .file []), ("llm.txt".toList, .directory [])])], ⟨['/'], []⟩, []⟩

end Service
end DiscoveryFiles
