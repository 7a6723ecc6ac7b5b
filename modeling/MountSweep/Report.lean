import MountSweep.Error
import Std.Data.TreeMap

namespace MountSweep

open Time

inductive Outcome
  | passed
  | skipped (reason : String)
  | failed (errors : List Error)
  deriving DecidableEq, Repr

namespace Outcome

/-- The outcome of a run with these errors: none is a pass, and errors that all skip are a skip.
Otherwise the run failed, of the errors that do not skip. -/
def ofErrors (errors : List Error) : Outcome :=
  if errors = [] then .passed
  else if errors.all Error.isSkip then .skipped ("; ".intercalate (errors.map Error.message))
  else .failed (errors.filter fun e ↦ !e.isSkip)

theorem ofErrors_eq_passed {errors : List Error} : ofErrors errors = .passed ↔ errors = [] := by
  unfold ofErrors
  split
  · simp [*]
  · split <;> simp [*]

theorem ofErrors_eq_failed {errors : List Error} {e : Error} (he : e ∈ errors)
    (hs : e.isSkip = false) :
    ofErrors errors = .failed (errors.filter fun e ↦ !e.isSkip) := by
  have hne : errors ≠ [] := List.ne_nil_of_mem he
  have hall : errors.all Error.isSkip = false :=
    List.all_eq_false.mpr ⟨e, he, by simp [hs]⟩
  simp [ofErrors, hne, hall]

theorem ofErrors_singleton {e : Error} (hs : e.isSkip = true) :
    ofErrors [e] = .skipped e.message := by
  simp [ofErrors, hs, String.intercalate_singleton]

def isPassed : Outcome → Bool
  | .passed => true
  | _ => false

def isSkipped : Outcome → Bool
  | .skipped _ => true
  | _ => false

def isFailed : Outcome → Bool
  | .failed _ => true
  | _ => false

/-- The categories of the errors of a failed run, in the order of the report and each once. -/
def categories : Outcome → List ErrorCategory
  | .failed errors =>
    ((errors.map Error.category).mergeSort fun c d ↦ (compare c d).isLE).eraseReps
  | _ => []

end Outcome

structure RunReport where
  id : String
  outcome : Outcome
  elapsed : Span
  deriving DecidableEq, Repr

/-- The line of a run, and one line for each error of a failed one; `took` is what is shown of
the time of a run that passed. -/
def RunReport.line (r : RunReport) (took : String) : String :=
  match r.outcome with
  | .passed => "PASS " ++ r.id ++ " (" ++ took ++ ")"
  | .skipped reason => "SKIP " ++ r.id ++ ": " ++ reason
  | .failed errors =>
    "FAIL " ++ r.id ++
      String.join (errors.map fun e ↦ "\n    [" ++ e.category.name ++ "] " ++ e.message)

def RunReport.display (r : RunReport) : String :=
  r.line r.elapsed.displayTenths

/-- The results of a sweep; `notRun` counts the planned runs that an interrupt prevented. -/
structure Report where
  runs : List RunReport := []
  notRun : Nat := 0
  deriving DecidableEq, Repr, Inhabited

namespace Report

def passed (r : Report) : Nat := r.runs.countP (·.outcome.isPassed)

def failed (r : Report) : Nat := r.runs.countP (·.outcome.isFailed)

def skipped (r : Report) : Nat := r.runs.countP (·.outcome.isSkipped)

def isSuccess (r : Report) : Bool :=
  r.failed = 0 && r.notRun = 0

def countOne (counts : Std.TreeMap ErrorCategory Nat) (c : ErrorCategory) :
    Std.TreeMap ErrorCategory Nat :=
  counts.alter c fun n ↦ some (n.getD 0 + 1)

/-- The numbers of failures by category, in order. A run counts once for each category that it hit,
and categories that no run hit are left out. -/
def failuresByCategory (r : Report) : List (ErrorCategory × Nat) :=
  ((r.runs.flatMap (·.outcome.categories)).foldl countOne ∅).toList

def display (r : Report) : String :=
  toString r.passed ++ " passed, " ++ toString r.failed ++ " failed, " ++
    toString r.skipped ++ " skipped" ++
    (if 0 < r.notRun then ", " ++ toString r.notRun ++ " not run (interrupted)" else "") ++
    String.join (r.failuresByCategory.map fun (c, n) ↦
      "\n  " ++ c.name ++ " failures: " ++ toString n)

end Report

end MountSweep
