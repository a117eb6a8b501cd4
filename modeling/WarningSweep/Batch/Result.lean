import WarningSweep.Files.Path
import WarningSweep.Log.Record
import WarningSweep.Number

/-!
# Results of single files

A result says what became of one file, how many regions it has, and how many warnings were kept and
removed. The tally counts results by their status.
-/

namespace WarningSweep

/-! ## Results -/

inductive Status where
  | modified
  | unchanged
  | failed
  deriving DecidableEq, Repr, Inhabited

namespace Status

def all : List Status := [.modified, .unchanged, .failed]

def name : Status → String
  | .modified => "modified"
  | .unchanged => "unchanged"
  | .failed => "failed"

def ofName? (name : String) : Option Status := all.find? fun status => status.name = name

end Status

structure FileResult where
  path : String
  status : Status
  regions : Int := 0
  kept : Int := 0
  removed : Int := 0
  error : Option String := none
  deriving DecidableEq, Repr, Inhabited

namespace FileResult

def withShortPath (result : FileResult) : FileResult :=
  { result with path := collapsePath result.path }

def succeeded (result : FileResult) : Bool := result.status ≠ .failed

def errorText (result : FileResult) : String := result.error.getD ""

def text (result : FileResult) : String :=
  let details :=
    if result.errorText = "" then s!"regions: {result.regions}, removed: {result.removed}"
    else result.errorText
  s!"{result.path}: {result.status.name} ({details})"

end FileResult

inductive RowValue where
  | text (s : String)
  | number (n : Int)
  deriving DecidableEq, Repr, Inhabited

/-- The values that a result is shown with, from the first column on. -/
def FileResult.row (result : FileResult) : List RowValue :=
  [.text result.path, .text result.status.name, .number result.regions, .number result.kept,
    .number result.removed, .text result.errorText]

structure Tally where
  total : Nat := 0
  modified : Nat := 0
  unchanged : Nat := 0
  failed : Nat := 0
  removed : Int := 0
  deriving DecidableEq, Repr, Inhabited

namespace Tally

def record (tally : Tally) (result : FileResult) : Tally :=
  let tally := { tally with total := tally.total + 1, removed := tally.removed + result.removed }
  match result.status with
  | .modified => { tally with modified := tally.modified + 1 }
  | .unchanged => { tally with unchanged := tally.unchanged + 1 }
  | .failed => { tally with failed := tally.failed + 1 }

end Tally

/-! ## Progress

Every file is reported as it is done, and the share of the files that are done after every interval
and at the end.
-/

structure Progress where
  total : Int
  interval : Int := 50
  current : Nat := 0
  deriving DecidableEq, Repr, Inhabited

namespace Progress

/-- The share in percent; all of nothing counts as done. -/
def share (current : Nat) (total : Int) : String :=
  if total = 0 then "100.0"
  else (if total < 0 then "-" else "") ++ percentage current total.natAbs

def next (progress : Progress) : Progress := { progress with current := progress.current + 1 }

def fileRecord (progress : Progress) (result : FileResult) : Log.Record :=
  Log.Channel.batch.debug s!"[{progress.current}/{progress.total}] {result.text}"

/-- The records of the file done last; `none` if the interval is zero, which no count is a multiple
of. -/
def shareRecords? (progress : Progress) : Option (List Log.Record) :=
  if progress.interval = 0 then none
  else if (progress.current : Int) % progress.interval = 0 ∨
    (progress.current : Int) = progress.total then
    let percent := share progress.current progress.total
    some [Log.Channel.batch.info
      s!"Progress: {progress.current}/{progress.total} files ({percent}%)"]
  else some []

end Progress

end WarningSweep
