import SchemaFormat.Formatter.Basic

/-!
Formatting many files.

The files are formatted one after the other in the order given; a fault of one does not stop the
others. Afterwards the faults are logged in that order, and a summary names the files that differ
from their formatted text.
-/

namespace SchemaFormat

/-- What became of many files. -/
structure Summary where
  /-- The files that differ from their formatted text. -/
  changed : List Path := []
  /-- How many files were not formatted. -/
  failed : Nat := 0
  deriving DecidableEq, Repr

abbrev FileResult := Path × Except FileFault Bool

namespace Summary

def changedOf (results : List FileResult) : List Path :=
  results.filterMap fun (p, result) =>
    match result with
    | .ok true => some p
    | _ => none

def faultsOf (results : List FileResult) : List FileFault :=
  results.filterMap fun (_, result) =>
    match result with
    | .error fault => some fault
    | .ok _ => none

def ofResults (results : List FileResult) : Summary where
  changed := changedOf results
  failed := (faultsOf results).length

end Summary

namespace Formatter

def processEach (f : Formatter) (mode : Mode) : List Path → Run (List FileResult)
  | [] => return []
  | p :: ps => do
    let result ← f.processFile mode p
    return (p, result) :: (← f.processEach mode ps)

/-- Format all files, log the faults and sum up. -/
def processFiles (f : Formatter) (mode : Mode) (paths : List Path) : Run Summary := do
  let results ← f.processEach mode paths
  (Summary.faultsOf results).forM fun fault => Run.log (.fileFailed fault)
  return Summary.ofResults results

end Formatter

end SchemaFormat
